import Ninlil.Control.Inflight

/-!
# The handshake, abstractly

The part of a session that the agreement of two sessions rests on, as a machine of its own: request
ids are drawn, a `HELLO` is asked under one of them, a Cell acknowledges a `HELLO` under a new
generation, and a Controller takes the pair of an acknowledgement that answers what it asked.

* `Handshake`, `Handshake.Step`: the machine;
* `Handshake.Ok`: its invariant, kept by each step;
* `Refines`: a change of a session is a run of the machine;
* `handshake_run`: the invariant holds in every run of a session.
-/

namespace Ninlil.Control

/-! ### Histories -/

/-- The request ids drawn, newest first. -/
def allocations (trace : List SessionEvent) : List UInt32 :=
  trace.filterMap fun
    | .allocated r => some r
    | _ => none

/-- The request ids of the `HELLO`s planned, newest first. -/
def requests (trace : List SessionEvent) : List UInt32 :=
  trace.filterMap fun
    | .requested r => some r
    | _ => none

/-- The generations of the acknowledgements planned, newest first. -/
def generations (trace : List SessionEvent) : List UInt32 :=
  trace.filterMap fun
    | .acknowledged _ g _ => some g
    | _ => none

/-- The sessions that were taken, newest first. -/
def activations (trace : List SessionEvent) : List (UInt32 × UInt64) :=
  trace.filterMap fun
    | .activated _ g c => some (g, c)
    | _ => none

/-- The `HELLO` that was planned last, if it was not answered since. -/
def pending : List SessionEvent → Option UInt32
  | [] => none
  | .requested r :: _ => some r
  | .activated .. :: _ => none
  | _ :: trace => pending trace

/-- What a session has heard: the `HELLO`s by their ids, and the acknowledgements. -/
structure Heard where
  hello : UInt32 → Prop
  ack : UInt32 → UInt32 → UInt64 → Prop

/-- The handshake of a session. -/
structure Handshake where
  role : Role
  session : Option (UInt32 × UInt64)
  asked : UInt32 → Prop
  requestNext : UInt32
  lastIssued : UInt32
  trace : List SessionEvent

/-- The next request id; `0` is skipped. -/
def Handshake.nextId (h : Handshake) : UInt32 := if h.requestNext = 0 then 1 else h.requestNext

/-- A request id is drawn. -/
def Handshake.alloc (h : Handshake) : Handshake :=
  { h with
    requestNext := if h.nextId = seqMax then 1 else h.nextId + 1
    trace := .allocated h.nextId :: h.trace }

/-- The steps of a handshake. -/
inductive Handshake.Step (heard : Heard) : Handshake → Handshake → Prop
  /-- Requests and the session are given up. -/
  | forget {h : Handshake} {asked : UInt32 → Prop} {session : Option (UInt32 × UInt64)}
      (less : ∀ r, asked r → h.asked r) (kept : session = none ∨ session = h.session) :
      Step heard h { h with asked, session }
  /-- Something else happened. -/
  | note {h : Handshake} {e : SessionEvent} (other : e.numbers = true) :
      Step heard h { h with trace := e :: h.trace }
  | alloc {h : Handshake} : Step heard h h.alloc
  /-- A `HELLO` is asked under a fresh id, and replaces the one before it. -/
  | request {h : Handshake} {asked : UInt32 → Prop} (role : h.role = .controller)
      (only : ∀ r, asked r → r = h.nextId) :
      Step heard h { h.alloc with asked, trace := .requested h.nextId :: h.alloc.trace }
  /-- A `HELLO` is acknowledged under the next generation, while there is one. -/
  | acknowledge {h : Handshake} {r : UInt32} {cookie : UInt64} (role : h.role = .cell)
      (hello : heard.hello r) (left : h.lastIssued ≠ seqMax) (cookie_ne : cookie ≠ 0) :
      Step heard h { h with
        lastIssued := h.lastIssued + 1
        trace := .acknowledged r (h.lastIssued + 1) cookie :: h.trace }
  /-- The acknowledgement of what was asked is taken, and nothing is asked any more. -/
  | activate {h : Handshake} {r g : UInt32} {c : UInt64} {asked : UInt32 → Prop}
      (role : h.role = .controller) (answers : h.asked r) (ack : heard.ack r g c)
      (answered : ∀ r, ¬ asked r) :
      Step heard h { h with asked, session := some (g, c), trace := .activated r g c :: h.trace }

/-! ### The invariant -/

/-- The ids drawn so far, as long as they did not run out, count up from `1`. -/
structure IdsOk (h : Handshake) : Prop where
  next : h.requestNext.toNat = (allocations h.trace).length + 1
  below : ∀ r ∈ allocations h.trace, r.toNat ≤ (allocations h.trace).length
  nodup : (allocations h.trace).Nodup

/-- The generations issued so far grow. -/
structure GenerationsOk (h : Handshake) : Prop where
  below : ∀ g ∈ generations h.trace, g ≤ h.lastIssued
  sorted : (generations h.trace).Pairwise (· > ·)

/-- The invariant of a handshake. -/
structure Handshake.Ok (heard : Heard) (h : Handshake) : Prop where
  /-- What is asked is the last request, not yet answered. -/
  asked : ∀ r, h.asked r → pending h.trace = some r
  session : ∀ p, h.session = some p → (activations h.trace).head? = some p
  /-- A taken acknowledgement was heard, and answered the last request before it. -/
  activated : ∀ r g c older, (.activated r g c :: older) <:+ h.trace →
    heard.ack r g c ∧ pending older = some r
  acknowledged : ∀ r g c, .acknowledged r g c ∈ h.trace → heard.hello r ∧ g ≠ 0 ∧ c ≠ 0
  requests : (requests h.trace).Sublist (allocations h.trace)
  ids : (allocations h.trace).length < 2 ^ 32 - 1 → IdsOk h
  generations : GenerationsOk h

section Machine

variable {heard heard' : Heard} {h h' : Handshake}

theorem Handshake.Ok.mono (hok : h.Ok heard) (hhello : ∀ r, heard.hello r → heard'.hello r)
    (hack : ∀ r g c, heard.ack r g c → heard'.ack r g c) : h.Ok heard' where
  asked := hok.asked
  session := hok.session
  activated r g c older hsuf :=
    ⟨hack r g c (hok.activated r g c older hsuf).1, (hok.activated r g c older hsuf).2⟩
  acknowledged r g c hmem :=
    ⟨hhello r (hok.acknowledged r g c hmem).1, (hok.acknowledged r g c hmem).2⟩
  requests := hok.requests
  ids := hok.ids
  generations := hok.generations

/-- An id is drawn while there are fresh ones. -/
theorem IdsOk.alloc (hids : IdsOk h) (hlen : (allocations h.trace).length + 1 < 2 ^ 32 - 1) :
    IdsOk h.alloc := by
  have hnext := hids.next
  have hne : h.requestNext ≠ 0 := by
    intro hzero
    rw [hzero] at hnext
    exact absurd hnext (by simp)
  have hid : h.nextId = h.requestNext := if_neg hne
  have hmax : h.nextId ≠ seqMax := by
    intro heq
    have hnat : h.requestNext.toNat = 2 ^ 32 - 1 := by
      rw [← hid, heq]
      rfl
    omega
  have hall : allocations h.alloc.trace = h.nextId :: allocations h.trace := rfl
  refine ⟨?_, fun r hr => ?_, ?_⟩
  · rw [hall, List.length_cons, show h.alloc.requestNext = h.nextId + 1 from if_neg hmax,
      UInt32.toNat_add, hid, hnext]
    exact Nat.mod_eq_of_lt (by simp; omega)
  · rw [hall] at hr ⊢
    rw [List.length_cons]
    rcases List.mem_cons.1 hr with rfl | hr
    · rw [hid, hnext]
    · exact (hids.below r hr).trans (Nat.le_succ _)
  · rw [hall]
    refine List.nodup_cons.2 ⟨fun hmem => ?_, hids.nodup⟩
    have hle := hids.below _ hmem
    rw [hid, hnext] at hle
    omega

/-- The next generation is larger than all before it. -/
theorem GenerationsOk.issue (hgen : GenerationsOk h) (left : h.lastIssued ≠ seqMax) {r : UInt32}
    {cookie : UInt64} :
    GenerationsOk { h with
      lastIssued := h.lastIssued + 1
      trace := .acknowledged r (h.lastIssued + 1) cookie :: h.trace } := by
  have hlt : h.lastIssued < h.lastIssued + 1 := by
    rw [UInt32.lt_iff_toNat_lt, UInt32.toNat_add]
    have hnat : h.lastIssued.toNat ≠ 2 ^ 32 - 1 := fun heq => left (UInt32.toNat_inj.1 heq)
    have hbound := h.lastIssued.toNat_lt
    rw [show (1 : UInt32).toNat = 1 from rfl, Nat.mod_eq_of_lt (by omega)]
    omega
  have hall : generations (.acknowledged r (h.lastIssued + 1) cookie :: h.trace) =
      (h.lastIssued + 1) :: generations h.trace := rfl
  constructor
  · intro g hg
    rcases List.mem_cons.1 (hall ▸ hg) with rfl | hg
    · exact UInt32.le_refl _
    · exact UInt32.le_of_lt (UInt32.lt_of_le_of_lt (hgen.below g hg) hlt)
  · show (generations (.acknowledged r (h.lastIssued + 1) cookie :: h.trace)).Pairwise (· > ·)
    rw [hall]
    exact List.pairwise_cons.2
      ⟨fun g hg => UInt32.lt_of_le_of_lt (hgen.below g hg) hlt, hgen.sorted⟩

theorem IdsOk.congr (hids : IdsOk h) (hnext : h'.requestNext = h.requestNext)
    (hall : allocations h'.trace = allocations h.trace) : IdsOk h' := by
  refine ⟨?_, ?_, ?_⟩
  · rw [hnext, hall]
    exact hids.next
  · rw [hall]
    exact hids.below
  · rw [hall]
    exact hids.nodup

theorem GenerationsOk.congr (hgen : GenerationsOk h) (hlast : h'.lastIssued = h.lastIssued)
    (hall : generations h'.trace = generations h.trace) : GenerationsOk h' := by
  refine ⟨?_, ?_⟩
  · rw [hlast, hall]
    exact hgen.below
  · rw [hall]
    exact hgen.sorted

/-- An event that takes no session adds nothing to answer for. -/
theorem suffix_of_other {e : SessionEvent} {r g : UInt32} {c : UInt64}
    {older trace : List SessionEvent} (hsuf : (.activated r g c :: older) <:+ (e :: trace))
    (hne : e ≠ .activated r g c) :
    (.activated r g c :: older) <:+ trace := by
  rcases List.suffix_cons_iff.1 hsuf with heq | hsuf
  · exact absurd (List.cons.inj heq).1.symm hne
  · exact hsuf

theorem Handshake.Ok.alloc (hok : h.Ok heard) : h.alloc.Ok heard where
  asked := hok.asked
  session := hok.session
  activated r g c older hsuf := hok.activated r g c older (suffix_of_other hsuf nofun)
  acknowledged r g c hmem := hok.acknowledged r g c ((List.mem_cons.1 hmem).resolve_left nofun)
  requests := hok.requests.cons _
  ids hlen := (hok.ids ((Nat.lt_succ_self _).trans hlen)).alloc hlen
  generations := hok.generations.congr rfl rfl

/-- Every step keeps the invariant. -/
theorem Handshake.Ok.step (hok : h.Ok heard) (hs : Handshake.Step heard h h') : h'.Ok heard := by
  cases hs with
  | forget less kept =>
    refine ⟨fun r hr => hok.asked r (less r hr), fun p hp => ?_, hok.activated, hok.acknowledged,
      hok.requests, fun hlen => (hok.ids hlen).congr rfl rfl, hok.generations.congr rfl rfl⟩
    rcases kept with hnone | hsame
    · exact absurd (hnone.symm.trans hp) nofun
    · exact hok.session p (hsame.symm.trans hp)
  | @note e other =>
    have hpend : pending (e :: h.trace) = pending h.trace := by
      cases e <;> first | rfl | cases other
    have hreq : Control.requests (e :: h.trace) = Control.requests h.trace := by
      cases e <;> first | rfl | cases other
    have halloc : allocations (e :: h.trace) = allocations h.trace := by
      cases e <;> first | rfl | cases other
    have hgen : Control.generations (e :: h.trace) = Control.generations h.trace := by
      cases e <;> first | rfl | cases other
    have hact : activations (e :: h.trace) = activations h.trace := by
      cases e <;> first | rfl | cases other
    refine ⟨fun r hr => ?_, fun p hp => ?_, fun r g c older hsuf => ?_, fun r g c hmem => ?_, ?_,
      fun hlen => ?_, hok.generations.congr rfl hgen⟩
    · exact hpend.trans (hok.asked r hr)
    · exact (congrArg List.head? hact).trans (hok.session p hp)
    · refine hok.activated r g c older (suffix_of_other hsuf ?_)
      rintro rfl
      cases other
    · refine hok.acknowledged r g c ((List.mem_cons.1 hmem).resolve_left ?_)
      rintro rfl
      cases other
    · show (Control.requests (e :: h.trace)).Sublist (allocations (e :: h.trace))
      rw [hreq, halloc]
      exact hok.requests
    · refine IdsOk.congr (hok.ids ?_) rfl halloc
      have hlen : (allocations (e :: h.trace)).length < _ := hlen
      rw [halloc] at hlen
      exact hlen
  | alloc => exact hok.alloc
  | request role only =>
    have hdrawn := hok.alloc
    refine ⟨fun r hr => ?_, hdrawn.session, fun r g c older hsuf => ?_, fun r g c hmem => ?_, ?_,
      fun hlen => (hdrawn.ids hlen).congr rfl rfl, hdrawn.generations.congr rfl rfl⟩
    · rw [only r hr]
      rfl
    · exact hdrawn.activated r g c older (suffix_of_other hsuf nofun)
    · exact hdrawn.acknowledged r g c ((List.mem_cons.1 hmem).resolve_left nofun)
    · exact hok.requests.cons_cons h.nextId
  | acknowledge role hello left cookie_ne =>
    refine ⟨hok.asked, hok.session, fun r g c older hsuf => ?_, fun r g c hmem => ?_, hok.requests,
      fun hlen => (hok.ids hlen).congr rfl rfl, hok.generations.issue left⟩
    · exact hok.activated r g c older (suffix_of_other hsuf nofun)
    · rcases List.mem_cons.1 hmem with heq | hmem
      · cases heq
        refine ⟨hello, fun hzero => left ?_, cookie_ne⟩
        have hback : h.lastIssued + 1 - 1 = 0 - 1 := congrArg (· - 1) hzero
        rw [UInt32.add_sub_cancel] at hback
        exact hback
      · exact hok.acknowledged r g c hmem
  | activate role answers ack answered =>
    refine ⟨fun r hr => absurd hr (answered r), fun p hp => ?_, fun r g c older hsuf => ?_,
      fun r g c hmem => ?_, hok.requests, fun hlen => (hok.ids hlen).congr rfl rfl,
      hok.generations.congr rfl rfl⟩
    · rw [← hp]
      rfl
    · rcases List.suffix_cons_iff.1 hsuf with heq | hsuf
      · cases heq
        exact ⟨ack, hok.asked _ answers⟩
      · exact hok.activated r g c older hsuf
    · exact hok.acknowledged r g c ((List.mem_cons.1 hmem).resolve_left nofun)

/-- Every run of the machine keeps the invariant. -/
theorem Handshake.Ok.steps (hok : h.Ok heard)
    (hs : Relation.ReflTransGen (Handshake.Step heard) h h') : h'.Ok heard := by
  induction hs with
  | refl => exact hok
  | tail _ hstep ih => exact ih.step hstep

theorem Handshake.Step.trace (hs : Handshake.Step heard h h') : h.trace <:+ h'.trace := by
  cases hs with
  | forget => exact List.suffix_refl _
  | note | alloc => exact List.suffix_cons _ _
  | request => exact (List.suffix_cons _ _).trans (List.suffix_cons _ _)
  | acknowledge | activate => exact List.suffix_cons _ _

/-- A machine without a session comes to one by an activation only. -/
theorem Handshake.taken (hnone : h.session = none)
    (hs : Relation.ReflTransGen (Handshake.Step heard) h h') :
    h.trace <:+ h'.trace ∧ ∀ p, h'.session = some p → ∃ r older,
      (.activated r p.1 p.2 :: older) <:+ h'.trace ∧ h.trace <:+ older := by
  induction hs with
  | refl => exact ⟨List.suffix_refl _, fun p hp => absurd (hnone.symm.trans hp) nofun⟩
  | @tail t t' _ hstep ih =>
    obtain ⟨hsuf, htaken⟩ := ih
    have htrace := hstep.trace
    have hkept : t'.session = t.session → ∀ p, t'.session = some p → ∃ r older,
        (.activated r p.1 p.2 :: older) <:+ t'.trace ∧ h.trace <:+ older := by
      intro hsame p hp
      obtain ⟨r, older, hact, hold⟩ := htaken p (hsame.symm.trans hp)
      exact ⟨r, older, hact.trans htrace, hold⟩
    refine ⟨hsuf.trans htrace, ?_⟩
    cases hstep with
    | forget less kept =>
      rcases kept with hgone | hsame
      · exact fun p hp => absurd (hgone.symm.trans hp) nofun
      · exact hkept hsame
    | note | alloc | request | acknowledge => exact hkept rfl
    | activate =>
      rintro p hp
      cases hp
      exact ⟨_, t.trace, List.suffix_refl _, hsuf⟩

end Machine

/-! ### The handshake of a session -/

/-- A `HELLO` is in flight under an id. -/
def AskedIn (slots : Fin inflightMax → InflightSlot) (r : UInt32) : Prop :=
  ∃ i, (slots i).kind = .hello ∧ (slots i).requestId = r

theorem askedIn_update {slots : Fin inflightMax → InflightSlot} {i : Fin inflightMax}
    {slot : InflightSlot} {r : UInt32} (h : AskedIn (Function.update slots i slot) r) :
    slot.kind = .hello ∧ slot.requestId = r ∨ AskedIn slots r := by
  obtain ⟨j, hj⟩ := h
  by_cases hji : j = i
  · rw [hji, Function.update_self] at hj
    exact .inl hj
  · rw [Function.update_of_ne hji] at hj
    exact .inr ⟨j, hj⟩

/-- A Controller's session, the requests it has in flight, and what both roles count. -/
def LogicalSession.handshake (s : LogicalSession) : Handshake where
  role := s.role
  session :=
    if s.role = .controller ∧ s.state = .sessionActive then some (s.activeGeneration, s.activeCookie)
    else none
  asked := AskedIn s.inflight
  requestNext := s.requestNext
  lastIssued := s.lastIssuedGeneration
  trace := s.trace

/-- What most changes leave alone of a handshake. -/
def LogicalSession.counters (s : LogicalSession) : Role × UInt32 × UInt32 × List SessionEvent :=
  (s.role, s.requestNext, s.lastIssuedGeneration, s.trace)

/-- A change of a session is a run of the machine. -/
def Refines (heard : Heard) (s s' : LogicalSession) : Prop :=
  Relation.ReflTransGen (Handshake.Step heard) s.handshake s'.handshake

section Changes

variable {heard : Heard} {s s' : LogicalSession}

theorem Refines.refl (s : LogicalSession) : Refines heard s s := Relation.ReflTransGen.refl

theorem Refines.trans {s₁ s₂ s₃ : LogicalSession} (h : Refines heard s₁ s₂)
    (h' : Refines heard s₂ s₃) : Refines heard s₁ s₃ := Relation.ReflTransGen.trans h h'

theorem Refines.of_eq (heq : s'.handshake = s.handshake) : Refines heard s s' := by
  unfold Refines
  rw [heq]

theorem Refines.single_of_eq {h : Handshake} (hstep : Handshake.Step heard s.handshake h)
    (heq : s'.handshake = h) : Refines heard s s' := by
  unfold Refines
  rw [heq]
  exact .single hstep

/-- A change that gives up requests in flight, and the session or not. -/
theorem Refines.of_less (hfixed : s'.counters = s.counters)
    (hasked : ∀ r, s'.handshake.asked r → s.handshake.asked r)
    (hsession : s'.handshake.session = none ∨ s'.handshake.session = s.handshake.session) :
    Refines heard s s' := by
  have heq : s'.handshake = { s.handshake with
      asked := s'.handshake.asked, session := s'.handshake.session } := by
    have hrole : s'.role = s.role := congrArg Prod.fst hfixed
    have hnext : s'.requestNext = s.requestNext := congrArg (·.2.1) hfixed
    have hlast : s'.lastIssuedGeneration = s.lastIssuedGeneration := congrArg (·.2.2.1) hfixed
    have htrace : s'.trace = s.trace := congrArg (·.2.2.2) hfixed
    show Handshake.mk _ _ _ _ _ _ = Handshake.mk _ _ _ _ _ _
    rw [Handshake.mk.injEq]
    exact ⟨hrole, rfl, rfl, hnext, hlast, htrace⟩
  exact .single_of_eq (.forget hasked hsession) heq

/-- The session is not active, or it is a Cell's. -/
theorem session_none (h : s.state ≠ .sessionActive ∨ s.role = .cell) :
    s.handshake.session = none := by
  refine if_neg fun hboth => ?_
  rcases h with hs | hrole
  · exact hs hboth.2
  · exact absurd (hrole.symm.trans hboth.1) (by decide)

/-- A change that leaves nothing in flight and no session. -/
theorem Refines.of_idle (hfixed : s'.counters = s.counters) (hs : s'.state ≠ .sessionActive)
    (hk : ∀ i, (s'.inflight i).kind ≠ .hello) : Refines heard s s' :=
  .of_less hfixed (fun _ ⟨i, hi, _⟩ => absurd hi (hk i)) (.inl (session_none (.inl hs)))

theorem refines_fence (s : LogicalSession) : Refines heard s (sessionToLinkUpNoSession s) :=
  .of_idle rfl nofun fun _ => nofun

theorem refines_arm (s : LogicalSession) (deadline : UInt64) :
    Refines heard s (armRehello s deadline) := .of_eq rfl

theorem refines_fenceAndRehello (s : LogicalSession) : Refines heard s (fenceAndRehello s) := by
  unfold fenceAndRehello
  dsimp only
  split_ifs
  · exact (refines_fence s).trans (refines_arm _ _)
  · exact refines_fence s

theorem refines_reject (s : LogicalSession) : Refines heard s (noteLogicalReject s) := by
  refine noteLogicalReject_cases (P := Refines heard s) s (fun _ => .of_eq rfl) ?_
  have hcount : Refines heard s { s with logicalRejectStreak := 0 } := .of_eq rfl
  exact hcount.trans (refines_fenceAndRehello _)

theorem refines_rxOnlyCold (s : LogicalSession) : Refines heard s (rxOnlyCold s) := .of_eq rfl

theorem refines_accept (s : LogicalSession) (seq : UInt32) :
    Refines heard s (acceptRxSequence s seq) := .of_eq rfl

theorem refines_alloc (s : LogicalSession) : Refines heard s (allocRequestId s).2 :=
  .single .alloc

theorem refines_continuityLoss (s : LogicalSession) : Refines heard s (continuityLoss s) := by
  unfold continuityLoss
  split_ifs
  · have hfenced : Refines heard s (sessionToLinkUpNoSession (rxOnlyCold s)) :=
      (refines_rxOnlyCold s).trans (refines_fence _)
    unfold cellContinuityLoss
    dsimp only
    split
    · exact hfenced
    · exact (hfenced.trans (refines_alloc _)).trans (.of_eq rfl)
  · exact (refines_rxOnlyCold s).trans (refines_fenceAndRehello _)

theorem refines_actionTryEnqueue (s : LogicalSession) (a : TxAction) :
    Refines heard s (actionTryEnqueue s a) := by
  unfold actionTryEnqueue actionEnqueue
  split_ifs <;> exact .of_eq rfl

theorem refines_ctrlError (s : LogicalSession) (code : UInt16) (requestId : UInt32) :
    Refines heard s (maybeEnqueueCtrlError s code requestId) := by
  refine maybeEnqueueCtrlError_cases (P := Refines heard s) s code requestId
    (fun _ => .of_eq rfl) fun times _ _ => ?_
  have hrate : Refines heard s { s with ctrlErrorTimes := times } := .of_eq rfl
  exact hrate.trans (refines_actionTryEnqueue _ _)

theorem refines_reset (s : LogicalSession) (code : UInt8) :
    Refines heard s (handleResetAccepted s code) := by
  unfold handleResetAccepted
  dsimp only
  split_ifs
  · split
    · exact refines_fence s
    · exact (refines_fence s).trans (refines_arm _ _)
  · exact refines_fence s
  · exact (refines_rxOnlyCold s).trans (refines_fenceAndRehello _)
  · exact refines_fenceAndRehello s
  · exact .refl s

/-- A slot that is given free holds no request. -/
theorem asked_removeIndex {i : Fin inflightMax} {r : UInt32}
    (h : AskedIn (inflightRemoveIndex s i).inflight r) : AskedIn s.inflight r := by
  unfold inflightRemoveIndex at h
  split_ifs at h
  · exact h
  · exact (askedIn_update h).resolve_left fun hfree => absurd hfree.1 nofun

theorem counters_removeIndex (s : LogicalSession) (i : Fin inflightMax) :
    (inflightRemoveIndex s i).counters = s.counters ∧
      (inflightRemoveIndex s i).handshake.session = s.handshake.session := by
  unfold inflightRemoveIndex
  split_ifs <;> exact ⟨rfl, rfl⟩

theorem refines_removeIndex (s : LogicalSession) (i : Fin inflightMax) :
    Refines heard s (inflightRemoveIndex s i) :=
  .of_less (counters_removeIndex s i).1 (fun _ => asked_removeIndex)
    (.inr (counters_removeIndex s i).2)

theorem refines_removeKind (s : LogicalSession) (kind : InflightKind) :
    Refines heard s (inflightRemoveKind s kind) := by
  unfold inflightRemoveKind
  split
  · exact refines_removeIndex s _
  · exact .refl s

theorem refines_onMatchedPong (s : LogicalSession) (i : Fin inflightMax) :
    Refines heard s (onMatchedPong s i) := by
  have hrem : Refines heard s (inflightRemoveIndex s i) := refines_removeIndex s i
  unfold onMatchedPong
  dsimp only
  split
  · exact hrem.trans (.of_eq rfl)
  · exact hrem.trans (.of_eq rfl)

theorem handshake_armHelloTimer (s : LogicalSession) (delayMs : UInt32) :
    (armHelloTimer s delayMs).2.handshake = s.handshake := by
  have hjitter : (applyHelloJitter s delayMs).2.handshake = s.handshake := by
    obtain ⟨n, hn⟩ := applyHelloJitter_draws s delayMs
    rw [hn]
    rfl
  unfold armHelloTimer
  dsimp only
  split
  · exact hjitter
  · exact hjitter

end Changes

/-! ### Received frames -/

section Received

variable {heard : Heard} {s s' : LogicalSession}

/-- The acknowledgement that answers the `HELLO` in flight is taken, or is a refusal. -/
theorem refines_onMatchedHelloAck (hrole : s.role = .controller)
    (hone : Slots.AtMostOne .hello s.flight.kinds) {i : Fin inflightMax}
    {m : Message} (hi : (s.inflight i).kind = .hello) (hid : (s.inflight i).requestId = m.requestId)
    {result : UInt16} (hack : result = helloOk →
      heard.ack m.requestId m.sessionGeneration m.sessionCookie) :
    Refines heard s (onMatchedHelloAck s i m result) := by
  have hrem : Refines heard s (inflightRemoveIndex s i) := refines_removeIndex s i
  unfold onMatchedHelloAck
  dsimp only
  split_ifs with hresult
  · obtain ⟨hfixed, -⟩ := counters_removeIndex s i
    have hrole' : (inflightRemoveIndex s i).role = s.role := congrArg Prod.fst hfixed
    have hkinds := congrArg Flight.kinds (flight_removeIndex s i)
    have hanswered : ∀ r, ¬ AskedIn (inflightRemoveIndex s i).inflight r := by
      rintro r ⟨j, hj, -⟩
      have hnone := hone.absent_update hi (by decide : InflightKind.none ≠ .hello) j
      exact hnone ((congrFun hkinds j).symm.trans hj)
    refine .single_of_eq (.activate hrole ⟨i, hi, hid⟩ (hack hresult) hanswered) ?_
    show Handshake.mk _ _ _ _ _ _ = Handshake.mk _ _ _ _ _ _
    rw [Handshake.mk.injEq]
    refine ⟨hrole', if_pos ⟨hrole'.trans hrole, rfl⟩, rfl, congrArg (·.2.1) hfixed,
      congrArg (·.2.2.1) hfixed, ?_⟩
    rw [show (inflightRemoveIndex s i).trace = s.trace from congrArg (·.2.2.2) hfixed]
    rfl
  · have hdown : Refines heard (inflightRemoveIndex s i) { inflightRemoveIndex s i with
        helloTimerArmed := false, state := .linkUpNoSession } :=
      .of_less rfl (fun _ h => h) (.inl (session_none (.inl nofun)))
    exact (hrem.trans hdown).trans (.of_eq (handshake_armHelloTimer _ _))

/-- A Cell answers a `HELLO` that it heard. -/
theorem refines_plan (hrole : s.role = .cell) {requestId : UInt32} (hhello : heard.hello requestId)
    (hp : HelloPlan s requestId s') : Refines heard s s' := by
  have hnone : s.handshake.session = none := session_none (.inr hrole)
  cases hp with
  | full => exact refines_reject s
  | busy => exact .of_less rfl (fun _ h => h) (.inl (session_none (.inl nofun)))
  | ok _ nonzero left =>
    refine .single_of_eq (.acknowledge hrole hhello left nonzero) ?_
    show Handshake.mk _ _ _ _ _ _ = Handshake.mk _ _ _ _ _ _
    rw [Handshake.mk.injEq]
    refine ⟨rfl, Eq.trans (if_neg fun hboth => ?_) hnone.symm, rfl, rfl, rfl, rfl⟩
    exact absurd (hrole.symm.trans hboth.1) (by decide)

theorem refines_readyForHello (s : LogicalSession) (fenceFirst : Bool) :
    Refines heard s (readyForHello s fenceFirst) := by
  have hclear : Refines heard s (clearNotice s) := .of_eq rfl
  cases fenceFirst
  · exact hclear.trans (.of_eq rfl)
  · exact (hclear.trans (refines_fence _)).trans (.of_eq rfl)

theorem refines_onValidHelloCell (hrole : s.role = .cell) {requestId : UInt32}
    (hhello : heard.hello requestId) (fenceFirst : Bool) :
    Refines heard s (onValidHelloCell s requestId fenceFirst) := by
  have hcell : (readyForHello s fenceFirst).role = .cell := by
    cases fenceFirst <;> exact hrole
  exact (refines_readyForHello s fenceFirst).trans
    (refines_plan hcell hhello (onValidHelloCell_plan s _ _))

theorem refines_bootstrapRestart (hrole : s.role = .cell) (seq : UInt32) {m : Message}
    (hhello : heard.hello m.requestId) : Refines heard s (bootstrapRestart s seq m) := by
  unfold bootstrapRestart
  dsimp only
  have hfixed : (clearNotice (clearOrdinaryActions (dropAllInflight (clearActive s)))).counters =
    s.counters :=
    rfl
  have hslots : (clearNotice (clearOrdinaryActions (dropAllInflight (clearActive s)))).inflight =
      fun _ => {} := rfl
  generalize clearNotice (clearOrdinaryActions (dropAllInflight (clearActive s))) = t
    at hfixed hslots ⊢
  have htrole : t.role = .cell := (congrArg Prod.fst hfixed).trans hrole
  have hclears : Refines heard s t := by
    refine .of_less hfixed (fun r hr => ?_) (.inl (session_none (.inr htrole)))
    obtain ⟨i, hi, -⟩ : AskedIn t.inflight r := hr
    rw [hslots] at hi
    cases hi
  have hbase : Refines heard s (acceptRxSequence (rxOnlyCold t) seq) :=
    (hclears.trans (refines_rxOnlyCold t)).trans (refines_accept _ seq)
  have hcell : (acceptRxSequence (rxOnlyCold t) seq).role = .cell := htrole
  exact hbase.trans (refines_onValidHelloCell hcell hhello true)

/-- A received frame, whose message was heard. -/
theorem Reaction.refines {fr : FrameFields} (hflight : s.flight.Ok False) (hr : Reaction s fr s')
    (hhello : ∀ m, decodeMessage fr.payload fr.type = .ok m → isValidHelloBootstrap m = true →
      heard.hello m.requestId)
    (hack : ∀ m version flags reserved, decodeMessage fr.payload fr.type = .ok m →
      m.body = .helloAck version flags helloOk reserved →
      heard.ack m.requestId m.sessionGeneration m.sessionCookie) : Refines heard s s' := by
  have hacc : Refines heard s (acceptRxSequence s fr.sequence) := refines_accept s _
  have haccept : (acceptRxSequence s fr.sequence).role = s.role := rfl
  cases hr with
  | rejected => exact refines_reject s
  | lost => exact refines_continuityLoss s
  | ignored => exact hacc.trans (refines_reject _)
  | answered code => exact (hacc.trans (refines_reject _)).trans (refines_ctrlError _ _ _)
  | hello role decoded valid =>
    exact hacc.trans (refines_onValidHelloCell (haccept.trans role) (hhello _ decoded valid) _)
  | halfOpen role decoded valid =>
    exact hacc.trans (refines_onValidHelloCell (haccept.trans role) (hhello _ decoded valid) _)
  | restart role decoded valid => exact refines_bootstrapRestart role _ (hhello _ decoded valid)
  | acked role decoded body _ _ _ found id =>
    refine hacc.trans (refines_onMatchedHelloAck (haccept.trans role) ?_ ?_ id fun hresult => ?_)
    · exact hflight.hello
    · exact Slots.findTag_eq_some found
    · exact hack _ _ _ _ decoded (hresult ▸ body)
  | pinged => exact hacc.trans (refines_actionTryEnqueue _ _)
  | ponged => exact hacc.trans (refines_onMatchedPong _ _)
  | reset => exact hacc.trans (refines_reset _ _)

/-- What a session heard, by the frames it received. -/
def heardIn (log : List TxEvent) : Heard where
  hello r := ∃ fields m low high flags reserved, .received fields ∈ log ∧
    decodeMessage fields.payload fields.type = .ok m ∧ m.body = .hello low high flags reserved ∧
    m.requestId = r
  ack r g c := ∃ fields m version flags reserved, .received fields ∈ log ∧
    decodeMessage fields.payload fields.type = .ok m ∧
    m.body = .helloAck version flags helloOk reserved ∧
    m.requestId = r ∧ m.sessionGeneration = g ∧ m.sessionCookie = c

theorem Handshake.Ok.grow {h : Handshake} {log log' : List TxEvent} (hok : h.Ok (heardIn log))
    (hsub : ∀ f, .received f ∈ log → .received f ∈ log') : h.Ok (heardIn log') := by
  refine hok.mono ?_ ?_
  · rintro r ⟨fields, m, low, high, flags, reserved, hrec, hrest⟩
    exact ⟨fields, m, low, high, flags, reserved, hsub fields hrec, hrest⟩
  · rintro r g c ⟨fields, m, version, flags, reserved, hrec, hrest⟩
    exact ⟨fields, m, version, flags, reserved, hsub fields hrec, hrest⟩

/-- A frame that was received is heard. -/
theorem Reaction.refines_heard {fr : FrameFields} {log : List TxEvent} (hflight : s.flight.Ok False)
    (hr : Reaction s fr s') (hrec : .received fr ∈ log) : Refines (heardIn log) s s' := by
  refine hr.refines hflight (fun m hd hv => ?_) fun m version flags reserved hd hb => ?_
  · have hbody : ∃ low high flags reserved, m.body = .hello low high flags reserved := by
      unfold isValidHelloBootstrap at hv
      split at hv
      · exact ⟨_, _, _, _, ‹_›⟩
      · cases hv
    obtain ⟨low, high, flags, reserved, hb⟩ := hbody
    exact ⟨fr, m, low, high, flags, reserved, hrec, hd, hb, rfl⟩
  · exact ⟨fr, m, version, flags, reserved, hrec, hd, hb, rfl, rfl, rfl⟩

theorem refines_drain (hrx : RxOk s.u3) (hflight : s.flight.Ok False) :
    Refines (heardIn s.u3.log) s (drainRx s) := by
  have hrule : (RxOk (drainRx s).u3 ∧ (drainRx s).flight.Ok False) ∧
      (drainRx s).u3.log = s.u3.log ∧ Refines (heardIn s.u3.log) s (drainRx s) := by
    refine drainRx_rule (P := fun t => (RxOk t.u3 ∧ t.flight.Ok False) ∧ t.u3.log = s.u3.log ∧
      Refines (heardIn s.u3.log) s t) ?_ ?_ ⟨⟨hrx, hflight⟩, rfl, .refl s⟩ hrx
    · rintro t fr rest t' ⟨⟨htrx, hokt⟩, hlog, ht⟩ hq hreact
      have hpop : Refines (heardIn s.u3.log) t (popRx t rest) := .of_eq rfl
      have hpopok : (popRx t rest).flight.Ok False := hokt
      have hrec : TxEvent.received fr ∈ s.u3.log := by
        rw [← hlog]
        exact htrx.logged fr (by rw [hq]; exact List.mem_cons_self)
      have hkept : t'.u3.log = t.u3.log :=
        congrArg (fun side : TxSide => side.core.log) hreact.isLocal.side
      exact ⟨⟨hreact.isLocal.rx (htrx.pop hq).1, (hreact.flight hpopok).ok⟩, hkept.trans hlog,
        (ht.trans hpop).trans (hreact.refines_heard hpopok hrec)⟩
    · rintro t ⟨⟨htrx, -⟩, hlog, ht⟩
      have hkept : (continuityLoss t).u3.log = t.u3.log :=
        congrArg (fun side : TxSide => side.core.log) (local_continuityLoss t).side
      exact ⟨⟨(local_continuityLoss t).rx htrx, (calm_continuityLoss t t).ok⟩, hkept.trans hlog,
        ht.trans (refines_continuityLoss t)⟩
  exact hrule.2.2

end Received

/-! ### Timers -/

section Timers

variable {heard : Heard} {s s' : LogicalSession}

theorem refines_armHelloTimer (s : LogicalSession) (delayMs : UInt32) :
    Refines heard s (armHelloTimer s delayMs).2 := .of_eq (handshake_armHelloTimer s delayMs)

theorem refines_armPlannedHello (s : LogicalSession) (isRetry : Bool) :
    Refines heard s (armPlannedHello s isRetry).2 := by
  unfold armPlannedHello
  split_ifs
  · exact refines_armHelloTimer s _
  · have hdelay : Refines heard s { s with helloRetryDelayMs := helloRetryInitialMs } := .of_eq rfl
    exact hdelay.trans (refines_armHelloTimer _ _)

/-- The planned `HELLO` is the only one in flight, once the one before it left the table. -/
theorem planHello_alone (h : s.flight.Ok False) (i : Fin inflightMax) :
    ((planHello s).inflight i).kind ≠ .hello := by
  obtain ⟨kinds, count, hplan, habsent, -⟩ : ∃ kinds count, (planHello s).flight =
      { s.flight with kinds, count } ∧ (∀ i, kinds i ≠ .hello) ∧
        Flight.Ok False { s.flight with kinds, count, pinging := s.pingInflight } := by
    unfold planHello
    refine flight_removeKind ?_ (by decide) ?_ fun hp => ⟨hp, by decide⟩
    · exact h
    · exact h.hello
  have hkinds : (planHello s).flight.kinds i ≠ .hello := by
    rw [hplan]
    exact habsent i
  exact hkinds

theorem counters_planHello (s : LogicalSession) :
    (planHello s).counters = (s.role, (allocRequestId s).2.requestNext, s.lastIssuedGeneration,
      .requested (allocRequestId s).1 :: (allocRequestId s).2.trace) := by
  unfold planHello inflightRemoveKind
  dsimp only
  split
  · exact (counters_removeIndex _ _).1
  · rfl

theorem state_planHello (s : LogicalSession) : (planHello s).state = s.state := by
  unfold planHello inflightRemoveKind inflightRemoveIndex
  dsimp only
  split
  · split_ifs <;> rfl
  · rfl

/-- A session without the one asked for planned its `HELLO`. -/
theorem refines_request (hrole : s.role = .controller) (hs : s.state ≠ .sessionActive)
    (hfixed : s'.counters = (planHello s).counters) (hs' : s'.state ≠ .sessionActive)
    (honly : ∀ r, AskedIn s'.inflight r → r = (allocRequestId s).1) : Refines heard s s' := by
  rw [counters_planHello] at hfixed
  refine .single_of_eq (.request hrole honly) ?_
  show Handshake.mk _ _ _ _ _ _ = Handshake.mk _ _ _ _ _ _
  rw [Handshake.mk.injEq]
  exact ⟨congrArg Prod.fst hfixed,
    (session_none (.inl hs')).trans (session_none (s := s) (.inl hs)).symm, rfl,
    congrArg (·.2.1) hfixed, congrArg (·.2.2.1) hfixed, congrArg (·.2.2.2) hfixed⟩

theorem refines_scheduleControllerHello (hrole : s.role = .controller) (h : s.flight.Ok False)
    (hs : s.state ≠ .sessionActive) (isRetry : Bool) :
    Refines heard s (scheduleControllerHello s isRetry).2 := by
  have halone := planHello_alone h
  unfold scheduleControllerHello
  dsimp only
  split_ifs
  · exact .refl s
  · exact .refl s
  · split
    · refine refines_request hrole hs rfl ?_ fun r hr => ?_
      · rw [state_planHello]
        exact hs
      · obtain ⟨i, hi, -⟩ := hr
        exact absurd hi (halone i)
    · rename_i planned hadd
      obtain ⟨i, -, rfl⟩ := inflightAdd_eq_some hadd
      refine .trans ?_ (refines_armPlannedHello _ isRetry)
      refine refines_request hrole hs rfl nofun fun r hr => ?_
      rcases askedIn_update hr with ⟨-, hid⟩ | ⟨j, hj, -⟩
      · exact hid.symm
      · exact absurd hj (halone j)

theorem refines_runRehelloTimer (hrole : s.role = .controller) (h : s.flight.Ok False) :
    Refines heard s (runRehelloTimer s) := by
  unfold runRehelloTimer
  split_ifs with hdue hstate
  · have hs : s.state ≠ .sessionActive := by rcases hstate with hs | hs <;> rw [hs] <;> decide
    have hsched : Refines heard s (scheduleControllerHello s false).2 :=
      refines_scheduleControllerHello hrole h hs false
    split
    · rename_i heq
      rw [heq] at hsched
      exact hsched.trans (.of_eq rfl)
    · rename_i heq
      rw [heq] at hsched
      exact hsched
  · exact .of_eq rfl
  · exact .refl s

theorem refines_runHelloTimer (hrole : s.role = .controller) (h : s.flight.Ok False) :
    Refines heard s (runHelloTimer s) := by
  unfold runHelloTimer
  split_ifs with hdue
  · have hs : s.state ≠ .sessionActive := by rw [hdue.2.1]; decide
    have hsched : Refines heard s (scheduleControllerHello s true).2 :=
      refines_scheduleControllerHello hrole h hs true
    split
    · rename_i heq
      rw [heq] at hsched
      exact hsched
    · rename_i heq
      rw [heq] at hsched
      exact hsched.trans (refines_armHelloTimer _ _)
  · exact .refl s

theorem refines_countMissedPong (s : LogicalSession) : Refines heard s (countMissedPong s) := by
  have hcount : Refines heard s { s with pongMissStreak := s.pongMissStreak + 1 } := .of_eq rfl
  have hrem := hcount.trans (refines_removeKind _ .ping)
  unfold countMissedPong
  dsimp only
  split
  · exact hrem.trans (.of_eq rfl)
  · exact hrem.trans (.of_eq rfl)

theorem refines_runPongTimeout (s : LogicalSession) : Refines heard s (runPongTimeout s) := by
  unfold runPongTimeout
  dsimp only
  split_ifs
  · exact ((refines_countMissedPong s).trans (refines_fence _)).trans (refines_arm _ _)
  · exact refines_countMissedPong s
  · exact .refl s

theorem refines_planPing (s : LogicalSession) : Refines heard s (planPing s) := by
  unfold planPing
  dsimp only
  generalize hplan : actionTryEnqueue (allocRequestId s).2 _ = q
  have hq : Refines heard s q := by
    rw [← hplan]
    exact (refines_alloc s).trans (refines_actionTryEnqueue _ _)
  cases hadd : inflightAdd q .ping (allocRequestId s).1 (pingToken (allocRequestId s).1 s.nowMs) with
  | none => exact hq
  | some t =>
    obtain ⟨i, -, rfl⟩ := inflightAdd_eq_some hadd
    refine hq.trans (.of_less rfl (fun r hr => ?_) (.inr rfl))
    exact (askedIn_update hr).resolve_left fun hping => absurd hping.1 nofun

theorem refines_runPingDispatch (s : LogicalSession) : Refines heard s (runPingDispatch s) := by
  have hfirst : Refines heard s (armFirstPing s) := by
    unfold armFirstPing
    split_ifs <;> exact .of_eq rfl
  have hdispatch : ∀ t : LogicalSession, Refines heard t (dispatchPing t) := by
    intro t
    unfold dispatchPing
    split
    · exact .refl t
    · split_ifs
      · exact .refl t
      · exact (refines_fence t).trans (refines_arm _ _)
      · exact refines_planPing t
      · exact .refl t
  unfold runPingDispatch
  split_ifs
  · exact .refl s
  · exact hfirst.trans (hdispatch _)
  · exact hfirst

theorem refines_runTimers (h : s.flight.Ok False) : Refines heard s (runTimers s) := by
  unfold runTimers
  dsimp only
  by_cases hrole : s.role = .controller
  · rw [if_neg (not_not.2 hrole)]
    have hre : Refines heard s (runRehelloTimer s) := refines_runRehelloTimer hrole h
    have hhello := hre.trans (refines_runHelloTimer ((local_runRehelloTimer s).role.trans hrole)
      (calm_runRehelloTimer hrole h).ok)
    split_ifs
    · exact (hhello.trans (refines_runPongTimeout _)).trans (refines_runPingDispatch _)
    · exact hhello
  · rw [if_pos hrole]
    exact .refl s

end Timers

/-! ### The stages of a step -/

section Stages

variable {heard : Heard} {s s' : LogicalSession}

theorem refines_note {e : SessionEvent} (he : e.numbers = true) :
    Refines heard s { s with trace := e :: s.trace } := .single (.note he)

/-- Something else happened, and what was in flight and the session are given up. -/
theorem refines_noted {e : SessionEvent} (he : e.numbers = true)
    (hfixed : s'.counters = (s.role, s.requestNext, s.lastIssuedGeneration, e :: s.trace))
    (hs : s'.state ≠ .sessionActive) (hk : ∀ i, (s'.inflight i).kind ≠ .hello) :
    Refines heard s s' := by
  have hforget : Handshake.Step heard s.handshake
      { s.handshake with asked := AskedIn s'.inflight, session := none } :=
    .forget (fun _ ⟨i, hi, _⟩ => absurd hi (hk i)) (.inl rfl)
  refine .tail (.single hforget) ?_
  have heq : s'.handshake = { s.handshake with
      asked := AskedIn s'.inflight, session := none, trace := e :: s.trace } := by
    show Handshake.mk _ _ _ _ _ _ = Handshake.mk _ _ _ _ _ _
    rw [Handshake.mk.injEq]
    exact ⟨congrArg Prod.fst hfixed, session_none (.inl hs), rfl, congrArg (·.2.1) hfixed,
      congrArg (·.2.2.1) hfixed, congrArg (·.2.2.2) hfixed⟩
  rw [heq]
  exact .note he

theorem refines_submission (hs : Submission s s') : Refines heard s s' := by
  cases hs with
  | exhausted =>
    have hfence : Refines heard s (clearNotice (sessionToLinkUpNoSession s)) :=
      (refines_fence s).trans (.of_eq rfl)
    have hcold : Refines heard s (rxOnlyCold { clearNotice (sessionToLinkUpNoSession s) with
        helloTimerArmed := false, nextTxSeq := 0 }) := by
      refine .trans ?_ (refines_rxOnlyCold _)
      exact hfence.trans (.of_eq rfl)
    have hnoted := hcold.trans (refines_note (e := .restarted) rfl)
    unfold applyTxSeqTerminalExhaust
    dsimp only
    split_ifs
    · exact hnoted.trans (refines_arm _ _)
    · exact hnoted.trans (.of_eq rfl)
  | unchanged => exact .refl s
  | dropped | refused | notice | action => exact .of_eq rfl

theorem refines_prepare (h : s.flight.Ok False) (now : UInt64) :
    Refines heard s (prepareStep s now).2 := by
  have hclock : Refines heard s { s with nowMs := now, haveNow := true } := .of_eq rfl
  exact (hclock.trans (refines_runTimers h)).trans
    (refines_submission (trySubmitTracked_submission _))

theorem refines_setInflightDeadline (s : LogicalSession) (kind : InflightKind)
    (deadlineMs : UInt64) : Refines heard s (setInflightDeadline s kind deadlineMs) := by
  unfold setInflightDeadline
  split
  · exact .refl s
  · rename_i i _
    refine .of_less rfl (fun r hr => ?_) (.inr rfl)
    rcases askedIn_update hr with hi | hr
    · exact ⟨i, hi⟩
    · exact hr

theorem refines_onRawAccepted (s : LogicalSession) : Refines heard s (onRawAccepted s) := by
  have hharvest : Refines heard s (harvestAccept s) :=
    .trans (refines_note (e := .harvested s.trackedToken) rfl) (.of_eq rfl)
  refine hharvest.trans ?_
  unfold onRawAccepted
  dsimp only
  generalize harvestAccept s = t
  split_ifs
  · exact .of_eq rfl
  · split
    · unfold onAckAccepted
      split_ifs with hrole
      · exact .refl t
      all_goals
        have hcell : t.role = .cell := not_not.1 hrole
        exact .of_less rfl (fun _ h => h) (.inl (session_none (.inr hcell)))
    · unfold onHelloAccepted
      split
      · exact .refl t
      · exact refines_setInflightDeadline t _ _
    · unfold onPingAccepted
      dsimp only
      split
      · exact .of_eq rfl
      · refine .trans ?_ (refines_setInflightDeadline _ .ping _)
        exact .of_eq rfl
    · unfold onResetAccepted
      dsimp only
      split_ifs
      · split
        · exact refines_fence t
        · exact (refines_fence t).trans (refines_arm _ _)
      · exact refines_fence t
      · exact (refines_rxOnlyCold t).trans (refines_fence _)
      · exact .refl t
    · exact .refl t

theorem refines_settling (hs : Settling s s') : Refines heard s s' := by
  have htold : Refines heard s (told s) := .of_eq rfl
  cases hs with
  | idle | pending => exact .refl s
  | accepted => exact (htold.trans (refines_onRawAccepted _)).trans (.of_eq rfl)
  | cancelled | fencedUnaccepted => exact .of_eq rfl
  | acceptedThenFenced =>
    exact .trans (refines_note (e := .harvested s.trackedToken) rfl) (.of_eq rfl)
  | indeterminate =>
    have hclear : Refines heard s { clearTracked (told s) with epochClaimed := false } := .of_eq rfl
    exact hclear.trans (refines_fence _)

theorem refines_outcome {io : PumpIo} {st : SessionStatus} {r : LogicalSession}
    (ho : Outcome s io st r) : Refines heard s r := by
  cases ho with
  | off => exact .refl s
  | malformed | kept => exact .of_eq rfl
  | @accepted st u _ _ _ _ _ tracked settled outcome =>
    have hpump : Refines heard s { s with u3 := u } := .of_eq rfl
    exact hpump.trans (refines_settling (.accepted tracked settled outcome))
  | @fenced st u r _ _ _ _ _ _ _ settling =>
    have hpump : Refines heard s { s with u3 := u } := .of_eq rfl
    exact hpump.trans (refines_settling settling)

theorem counters_clears (s : LogicalSession) :
    (clearActive (clearNotice (clearOrdinaryActions (dropAllInflight s)))).counters =
      s.counters := rfl

/-- A fence after which only the counters are left of the session before. -/
theorem Refines.of_fence {t : LogicalSession} (hfixed : t.counters = s.counters) :
    Refines heard s (sessionToLinkUpNoSession t) :=
  .of_idle ((show (sessionToLinkUpNoSession t).counters = t.counters from rfl).trans hfixed) nofun
    fun _ => nofun

theorem refines_apply (s : LogicalSession) (st : SessionStatus) :
    Refines heard s (applyU3PumpStatus s st).2 := by
  have hepoch : Refines heard s (onEpochLost s) := by
    refine .trans ?_ (refines_fenceAndRehello _)
    exact .of_eq rfl
  have hlink : Refines heard s (onLinkLost s) := by
    by_cases hk : s.trackedKind = .none
    · rw [onLinkLost_untracked hk]
      exact .of_idle rfl nofun fun _ => nofun
    · rw [onLinkLost_tracked hk]
      exact .of_fence (counters_clears s)
  cases st with
  | rxOverflow => exact refines_continuityLoss s
  | continuityLost | generationMismatch => exact hepoch
  | errLinkDown | closed | ioError => exact hlink
  | _ => exact .refl s

/-! ### The history of the control session -/

theorem Local.log (h : Local s s') : s'.u3.log = s.u3.log :=
  congrArg (fun side : TxSide => side.core.log) h.side

theorem log_submission (hs : Submission s s') : s.u3.log ⊆ s'.u3.log := by
  cases hs with
  | exhausted =>
    have hlog : (applyTxSeqTerminalExhaust s).u3.log = s.u3.log :=
      congrArg (fun t : Tie => t.core.log) (tie_applyTxSeqTerminalExhaust s)
    rw [hlog]
    exact List.Subset.refl _
  | unchanged | dropped | refused => exact List.Subset.refl _
  | notice | action => exact List.subset_cons_self _ _

theorem log_prepare (s : LogicalSession) (now : UInt64) :
    s.u3.log ⊆ (prepareStep s now).2.u3.log := by
  have htimers := (local_runTimers { s with nowMs := now, haveNow := true }).log
  have hsub := log_submission
    (trySubmitTracked_submission (runTimers { s with nowMs := now, haveNow := true }))
  rw [htimers] at hsub
  exact hsub

theorem log_settling (hs : Settling s s') : s.u3.log ⊆ s'.u3.log := by
  cases hs with
  | idle | pending => exact List.Subset.refl _
  | accepted =>
    have hlog : (clearTracked (onRawAccepted (told s))).u3.log = (told s).u3.log :=
      (local_onRawAccepted (told s)).log
    rw [hlog]
    exact List.subset_cons_self _ _
  | cancelled => exact List.subset_cons_self _ _
  | fencedUnaccepted => exact List.subset_cons_self _ _
  | acceptedThenFenced => exact List.subset_cons_self _ _
  | indeterminate => exact List.subset_cons_self _ _

theorem Grown.log_sub {u u' : Session} (h : Grown u u') : u.log ⊆ u'.log := by
  obtain ⟨added, hlog, -⟩ := h.log
  rw [hlog]
  exact List.subset_append_right _ _

theorem log_outcome {io : PumpIo} {st : SessionStatus} {r : LogicalSession}
    (ho : Outcome s io st r) : s.u3.log ⊆ r.u3.log := by
  cases ho with
  | off => exact List.Subset.refl _
  | malformed _ _ _ _ grown => exact grown.log_sub
  | kept _ _ _ _ grown => exact grown.log_sub
  | @accepted st u _ _ _ _ grown tracked settled outcome =>
    exact List.Subset.trans grown.log_sub
      (@log_settling { s with u3 := u } _ (.accepted tracked settled outcome))
  | fenced _ _ _ _ _ _ grown settling =>
    exact List.Subset.trans grown.log_sub (log_settling settling)

theorem log_apply (s : LogicalSession) (st : SessionStatus) :
    (applyU3PumpStatus s st).2.u3.log = s.u3.log := by
  have hepoch : (onEpochLost s).u3.log = s.u3.log := (local_fenceAndRehello _).log.trans rfl
  have hlink : (onLinkLost s).u3.log = s.u3.log := by
    by_cases hk : s.trackedKind = .none
    · rw [onLinkLost_untracked hk]
      exact (local_clears s).log
    · rw [onLinkLost_tracked hk]
      exact ((local_clears s).trans (local_fence _)).log
  cases st with
  | rxOverflow => exact (local_continuityLoss s).log
  | continuityLost | generationMismatch => exact hepoch
  | errLinkDown | closed | ioError => exact hlink
  | _ => rfl

end Stages

/-! ### Runs -/

section Runs

variable {s : LogicalSession}

/-- What a call does to the handshake, judged by what the session has heard after it. -/
structure HandshakeCall (s s' : LogicalSession) : Prop where
  steps : Refines (heardIn s'.u3.log) s s'
  log : s.u3.log ⊆ s'.u3.log

theorem handshake_step (hcoupled : Coupled s) (h : s.flight.Ok False) (io : StepIo) :
    HandshakeCall s (step s io).2 := by
  have hstep := hcoupled.stepped io
  generalize (step s io).2 = s' at hstep
  cases hstep with
  | refused => exact ⟨.refl s, List.Subset.refl _⟩
  | @went r t st up _ outcome _ _ applied =>
    obtain ⟨hprep, hup'⟩ := hcoupled.prepare up io.now
    have hrx : RxOk t.u3 := applied ▸ (hprep.apply hup' outcome).rx
    have ht : ∀ heard, Refines heard s t := fun heard =>
      applied ▸ ((refines_prepare h io.now).trans (refines_outcome outcome)).trans
        (refines_apply r st)
    have hcalm := calm_prepare h io.now
    have hok : t.flight.Ok False :=
      applied ▸ (flightStep_outcome hcalm.ok outcome nofun).ok
    have hlog : s.u3.log ⊆ t.u3.log := by
      rw [applied, log_apply]
      exact List.Subset.trans (log_prepare s io.now) (log_outcome outcome)
    split_ifs
    · exact ⟨ht _, hlog⟩
    · have hsame := (local_drainRx hrx).log
      refine ⟨(ht _).trans ?_, ?_⟩
      · rw [hsame]
        exact refines_drain hrx hok
      · rw [hsame]
        exact hlog

theorem refines_startSession {heard : Heard} (s : LogicalSession) :
    Refines heard s (startSession s) := by
  refine refines_noted (e := .bound) rfl ?_ nofun fun _ => nofun
  dsimp only [LogicalSession.counters, LogicalSession.role, startSession, clearTracked, clearNotice,
    clearOrdinaryActions, dropAllInflight, clearActive]

theorem handshake_bind (hcoupled : Coupled s) (io : BindIo) :
    HandshakeCall s (bindLogical s io).2 := by
  have hb := hcoupled.binding io
  generalize (bindLogical s io).2 = s' at hb
  cases hb with
  | refused => exact ⟨.refl s, List.Subset.refl _⟩
  | exhausted _ _ _ _ _ _ log => exact ⟨.of_eq rfl, log ▸ List.Subset.refl _⟩
  | @bound u epoch _ _ _ _ _ _ log =>
    obtain ⟨id, hlog⟩ := log
    have hstart : ∀ heard, Refines heard s
        (startSession { s with u3 := u, epoch := epoch, epochClaimed := true }) := by
      intro heard
      have hclaims : Refines heard s { s with u3 := u, epoch := epoch, epochClaimed := true } :=
        .of_eq rfl
      exact hclaims.trans (refines_startSession _)
    have hsub : s.u3.log ⊆ u.log := by
      rw [hlog]
      exact List.subset_cons_self _ _
    dsimp only
    split
    · exact ⟨(hstart _).trans (refines_arm _ _), hsub⟩
    · exact ⟨hstart _, hsub⟩

theorem handshake_unbind (hcoupled : Coupled s) : HandshakeCall s (unbindLogical s).2 := by
  by_cases hup : s.state = .disconnected
  · rw [unbindLogical, if_pos hup]
    exact ⟨.refl s, List.Subset.refl _⟩
  · obtain ⟨u, -, -, -, -, hlog, heq⟩ := hcoupled.unbinding hup
    rw [heq]
    have hfixed : (endSession { s with u3 := u }).counters = s.counters := by
      dsimp only [LogicalSession.counters, LogicalSession.role, endSession, clearTracked, dropSession,
        clearActive, clearNotice, clearOrdinaryActions, dropAllInflight]
    refine ⟨.of_idle hfixed (by rintro ⟨⟩) fun _ => by rintro ⟨⟩, ?_⟩
    show s.u3.log ⊆ u.log
    rcases hlog with hlog | hlog
    · rw [hlog]
      exact List.Subset.refl _
    · rw [hlog]
      exact List.subset_cons_self _ _

theorem handshake_call (hcoupled : Coupled s) (h : s.flight.Ok False) (c : LogicalCall) :
    HandshakeCall s (s.call c) := by
  cases c with
  | bind io => exact handshake_bind hcoupled io
  | unbind => exact handshake_unbind hcoupled
  | step io => exact handshake_step hcoupled h io

theorem handshake_init (config : LogicalConfig) (heard : Heard) :
    (LogicalSession.init config).handshake.Ok heard where
  asked _ hr := absurd hr.choose_spec.1 nofun
  session _ hp := absurd ((session_none (s := .init config) (.inl nofun)).symm.trans hp) nofun
  activated _ _ _ _ hsuf := absurd (List.suffix_nil.1 hsuf) nofun
  acknowledged _ _ _ := nofun
  requests := List.Sublist.refl _
  ids _ := ⟨rfl, nofun, List.nodup_nil⟩
  generations := ⟨nofun, List.Pairwise.nil⟩

/-- The handshake of every run: the machine's invariant, over the frames the session received. -/
theorem handshake_run (config : LogicalConfig) (calls : List LogicalCall) :
    (LogicalSession.run config calls).handshake.Ok
      (heardIn (LogicalSession.run config calls).u3.log) := by
  unfold LogicalSession.run
  induction calls using List.reverseRecOn with
  | nil => exact handshake_init config _
  | append_singleton calls c ih =>
    have hcoupled := coupled_run config calls
    have hflight := flight_run config calls
    rw [List.foldl_append]
    have hcall := handshake_call hcoupled hflight c
    exact (ih.grow fun f hf => hcall.log hf).steps hcall.steps

end Runs

end Ninlil.Control
