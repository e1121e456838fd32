import Ninlil.FragSession.Lanes
import Ninlil.FragState.StateRuns

/-!
# Runs of a session

The calls of a session in any order, and what every state they reach satisfies.

* `Call`, `Call.apply`, `Call.Allowed`: the calls; the sending side and the reception of LINK_ACKs
  may do anything to what they own (`Sends`);
* `Ledger`: the counters of the fragments that went into each slot and each publication;
* `Run`: the runs whose calls all satisfy a condition;
* `Sound`, `Run.sound`: the engine accounts for its tombstones, and a session with a lane has a key
  generation.
-/

namespace Ninlil.FragSession

open Bytes R7Frag

variable {P : Profile} {env : Env}

/-! ### Calls -/

/-- What the sending calls and `ninlil_r7_frag_sess_rx_link_ack` may do to a lane: they draw
counters, may fence it, and only a lane of LINK_ACKs receives. -/
structure Sends (L L' : Lane) : Prop where
  kind : L'.kind = L.kind
  contextId : L'.contextId = L.contextId
  keyGeneration : L'.keyGeneration = L.keyGeneration
  fenced : L.fenced = true → L'.fenced = true
  floor : L'.rxBootFloor = L.rxBootFloor
  receives : L.kind ≠ laneHopAck → L'.rxHighest = L.rxHighest ∧ L'.rxBitmap = L.rxBitmap ∧
    L'.rxAcceptThrough = L.rxAcceptThrough

/-- The calls. -/
inductive Call
  | setNow (now : UInt64)
  | tick (now : UInt64)
  | installLane (kind : UInt8) (contextId : UInt32) (keyGeneration : UInt64) (w : Write)
  | rxData (frame : List UInt8) (cap : Option ℕ) (d : Storage)
  | takePublication (outCap : ℕ)
  | restart
  | transmit (lanes : List Lane) (tx : Option TxFrag)

/-- The session after a call. -/
def Call.apply (env : Env) (s : Sess P) : Call → Sess P
  | .setNow now => FragSession.setNow s now
  | .tick now => (FragSession.tick s now).2
  | .installLane kind contextId keyGeneration w =>
    (FragSession.installLane s kind contextId keyGeneration w).2
  | .rxData frame cap d => (FragSession.rxData env s frame cap d).sess
  | .takePublication outCap => (FragSession.takePublication s outCap).2.1
  | .restart => FragSession.restart s
  | .transmit lanes tx => { s with lanes, tx }

/-- The sending side keeps to what it owns. -/
def Call.Allowed (s : Sess P) : Call → Prop
  | .transmit lanes _ => List.Forall₂ Sends s.lanes lanes
  | _ => True

/-! ### Ledger -/

/-- An end-to-end counter with the context it belongs to. -/
abbrev Counter := UInt32 × UInt64

/-- The counters whose fragments are in each slot, and those behind each publication. -/
structure Ledger (P : Profile) where
  slots : Fin P.reasmSlots → Multiset Counter
  published : List (Multiset Counter)

/-- Nothing was received yet. -/
def Ledger.init (P : Profile) : Ledger P := ⟨fun _ => 0, []⟩

/-- The counters of a slot after a message with the counter `c`. -/
def slotCounters (c : Counter) (held : Multiset Counter) :
    Option FragState.Slot → Option FragState.Slot → Multiset Counter
  | _, none => 0
  | none, some _ => {c}
  | some S, some S' => if S.bitmap = S'.bitmap then held else c ::ₘ held

/-- The counters of the slots that a call gave back. -/
def Ledger.given (l : Ledger P) (eng' : FragState.Engine P) : Multiset Counter :=
  ∑ i, if (eng'.reasm i).isNone then l.slots i else 0

/-- A message with the counter `c` moved the engine from `eng` to `eng'`. -/
def Ledger.message (l : Ledger P) (c : Counter) (eng eng' : FragState.Engine P) : Ledger P where
  slots i := slotCounters c (l.slots i) (eng.reasm i) (eng'.reasm i)
  published :=
    if eng'.publishCount = eng.publishCount then l.published
    else (c ::ₘ l.given eng') :: l.published

/-- Any other call: the slots it gives back lose their counters. -/
def Ledger.settle (l : Ledger P) (eng' : FragState.Engine P) : Ledger P :=
  { l with slots := fun i => if (eng'.reasm i).isNone then 0 else l.slots i }

/-- All counters of a ledger. -/
def Ledger.total (l : Ledger P) : Multiset Counter := ∑ i, l.slots i + l.published.sum

/-- Every publication has counters behind it, and no counter is behind two of them. -/
structure Ledger.Distinct (l : Ledger P) : Prop where
  nodup : l.published.sum.Nodup
  nonempty : ∀ k ∈ l.published, k ≠ 0

/-- The header of the message in a frame whose hop is admitted. -/
def rxHeader (env : Env) (s : Sess P) (frame : List UInt8) (d : Storage) : Option E2eFields :=
  match rxHop env s frame d with
  | .ok (_, blob, _) => (structuralE2eHeader blob).toOption
  | .error _ => none

/-- The ledger after a call. -/
def Ledger.next (env : Env) (s : Sess P) (l : Ledger P) (c : Call) : Ledger P :=
  match c with
  | .rxData frame _ d =>
    match rxHeader env s frame d with
    | some hdr => l.message (hdr.e2eContextId, hdr.e2eCounter) s.reasm (c.apply env s).reasm
    | none => l.settle (c.apply env s).reasm
  | _ => l.settle (c.apply env s).reasm

section Next

variable {env : Env} {s : Sess P} {l : Ledger P} {frame : List UInt8} {cap : Option ℕ} {d : Storage}

theorem next_rxData_some {hdr : E2eFields} (h : rxHeader env s frame d = some hdr) :
    l.next env s (.rxData frame cap d) = l.message (hdr.e2eContextId, hdr.e2eCounter) s.reasm
      (FragSession.rxData env s frame cap d).sess.reasm := by
  unfold Ledger.next
  dsimp only
  rw [h]
  rfl

theorem next_rxData_none (h : rxHeader env s frame d = none) :
    l.next env s (.rxData frame cap d) =
      l.settle (FragSession.rxData env s frame cap d).sess.reasm := by
  unfold Ledger.next
  dsimp only
  rw [h]
  rfl

end Next

/-! ### Runs -/

/-- The states that calls lead to, with their ledgers, when each call satisfies `ok`. -/
inductive Run (env : Env) (ok : Sess P → Call → Prop) : Sess P → Ledger P → Prop
  | init : Run env ok (.init P) (.init P)
  | next {s : Sess P} {l : Ledger P} (c : Call) (h : Run env ok s l) (hallowed : c.Allowed s)
      (hok : ok s c) : Run env ok (c.apply env s) (l.next env s c)

/-- Every run. -/
abbrev AnyRun (env : Env) : Sess P → Ledger P → Prop := Run env fun _ _ => True

/-! ### The handler and the engine -/

variable {lanes : List Lane} {kind : UInt8} {ctx : UInt32} {i : ℕ} {L L' : Lane}

@[simp] theorem setLane_reasm (s : Sess P) : (s.setLane i L).reasm = s.reasm := rfl

@[simp] theorem setLane_lanes (s : Sess P) : (s.setLane i L).lanes = s.lanes.set i L := rfl

/-- The engine stays, and the lanes keep what they took. -/
structure SameBut (s s' : Sess P) : Prop where
  reasm : s'.reasm = s.reasm
  keyGeneration : s'.keyGeneration = s.keyGeneration
  lanes : List.Forall₂ Lane.Keeps s.lanes s'.lanes

theorem keeps_trans {lanes'' lanes' : List Lane} (h : List.Forall₂ Lane.Keeps lanes lanes')
    (h' : List.Forall₂ Lane.Keeps lanes' lanes'') : List.Forall₂ Lane.Keeps lanes lanes'' := by
  induction h generalizing lanes'' with
  | nil =>
    cases h'
    exact .nil
  | cons hab _ ih =>
    cases h' with
    | cons hbc hrest => exact .cons (hab.trans hbc) (ih hrest)

theorem SameBut.refl (s : Sess P) : SameBut s s :=
  ⟨rfl, rfl, List.forall₂_same.2 fun L _ => .refl L⟩

theorem SameBut.trans {s s' s'' : Sess P} (h : SameBut s s') (h' : SameBut s' s'') :
    SameBut s s'' :=
  ⟨h'.reasm.trans h.reasm, h'.keyGeneration.trans h.keyGeneration, keeps_trans h.lanes h'.lanes⟩

theorem sameBut_setLane {s : Sess P} (hi : s.lanes[i]? = some L) (h : L.Keeps L') :
    SameBut s (s.setLane i L') :=
  ⟨rfl, rfl, forall₂_set hi h⟩

variable {s s' : Sess P} {frame blob : List UInt8} {d : Storage} {f : OuterDataFields}
  {cap : Option ℕ} {hdr : E2eFields}

/-- The session after a lane admits a counter or refuses it. -/
theorem sameBut_admit {s : Sess P} (hi : s.lanes[i]? = some L) (w : Write) (c : UInt64) :
    SameBut s (s.setLane i (laneRxAdmit L w c).2) :=
  sameBut_setLane hi (laneRxAdmit_cases L w c).1

theorem rxHop_same (env : Env) (s : Sess P) (frame : List UInt8) (d : Storage) :
    match rxHop env s frame d with
    | .ok (_, _, s') => SameBut s s'
    | .error (_, s') => SameBut s s' := by
  unfold rxHop
  cases hfind : laneFind s.lanes laneHopData s.hopDataContextId with
  | none => exact .refl s
  | some r =>
    obtain ⟨i, Lhop⟩ := r
    have hi := (laneFind_eq_some hfind).1
    dsimp only
    by_cases hstruct : outerStructural s frame = false
    · rw [if_pos hstruct]
      exact .refl s
    rw [if_neg hstruct]
    cases laneRxPrecheck Lhop (outerDataFields frame).hopCounter
    case ok =>
      dsimp only
      cases openOuterData env.provider env.keys.hopDataKey env.keys.hopDataIv frame with
      | error st => exact .refl s
      | ok r =>
        obtain ⟨f, blob⟩ := r
        have hadm := sameBut_admit hi d.hop f.hopCounter
        dsimp only
        rcases hres : laneRxAdmit Lhop d.hop f.hopCounter with ⟨st, L'⟩
        rw [hres] at hadm
        cases st
        all_goals exact hadm
    all_goals exact .refl s

theorem rxHop_ok (h : rxHop env s frame d = .ok (f, blob, s')) : SameBut s s' := by
  have hsame := rxHop_same env s frame d
  rw [h] at hsame
  exact hsame

theorem rxHop_error {st : Result} (h : rxHop env s frame d = .error (st, s')) : SameBut s s' := by
  have hsame := rxHop_same env s frame d
  rw [h] at hsame
  exact hsame

theorem ackHop_same (s : Sess P) : SameBut s (ackHop env s f cap d).1 := by
  unfold ackHop
  cases cap with
  | none => exact .refl s
  | some room =>
    dsimp only
    split_ifs
    · unfold genLinkAck
      split_ifs
      · exact .refl s
      cases hfind : laneFind s.lanes laneHopAck s.hopAckContextId with
      | none => exact .refl s
      | some r =>
        obtain ⟨i, L⟩ := r
        have hset := sameBut_setLane (laneFind_eq_some hfind).1 (keeps_laneTxAlloc L d)
        dsimp only
        rcases hres : laneTxAlloc L d with ⟨st, L', ac⟩
        rw [hres] at hset
        cases ac
        all_goals exact hset
    · exact .refl s

theorem acceptBody_same (s : Sess P) (intent : FragState.AckIntent) (st : Result) :
    SameBut s (acceptBody env s f intent st cap d).sess := ackHop_same s

/-- What a message with a fresh counter does to the engine. -/
inductive Touches (env : Env) (keyGeneration : UInt64) (blob : List UInt8)
    (eng : FragState.Engine P) : FragState.Engine P → Prop
  | same : Touches env keyGeneration blob eng eng
  | start (ef : E2eFields) (body : StartBody) (first : List UInt8) (fp : Digest)
      (hopen : openE2eStart env.provider env.keys.e2eKey env.keys.e2eIv blob =
        .ok (ef, body, first)) :
      Touches env keyGeneration blob eng
        (FragState.admitStart eng (startIn ef.e2eContextId keyGeneration body first fp)).2.1
  | cont (inp : FragState.ContIn) (hnone : inp.reassembledDigest32 = none) :
      Touches env keyGeneration blob eng (FragState.admitCont eng inp).2.1
  | final (inp : FragState.ContIn) (dig : Digest) (hnone : inp.reassembledDigest32 = none)
      (hneed : (FragState.admitCont eng inp).1 = .needDigest) :
      Touches env keyGeneration blob eng (FragState.finalize (FragState.admitCont eng inp).2.1
        inp.e2eContextId inp.transferHandle dig).2.1

theorem rxStart_touches (s : Sess P) (f : OuterDataFields) (i : ℕ) (Le : Lane) (blob : List UInt8)
    (cap : Option ℕ) (d : Storage) : Touches env s.keyGeneration blob s.reasm
      (rxStart env s f i Le blob cap d).sess.reasm := by
  unfold rxStart
  split
  · exact .same
  · rename_i ef body first hopen
    split
    · rename_i L' hadm
      dsimp only
      cases hfp : startFingerprint env.provider.toProvider body first with
      | error st => exact .same
      | ok fp =>
        have hstart : Touches env s.keyGeneration blob s.reasm _ := .start ef body first fp hopen
        dsimp only
        rcases hres : FragState.admitStart (s.setLane i L').reasm
          (startIn ef.e2eContextId (s.setLane i L').keyGeneration body first fp) with
          ⟨st, eng, intent⟩
        have heng : (FragState.admitStart s.reasm
            (startIn ef.e2eContextId s.keyGeneration body first fp)).2.1 = eng :=
          congrArg (fun r => r.2.1) hres
        rw [heng] at hstart
        cases st
        case ok =>
          dsimp only
          rwa [(acceptBody_same _ _ _).reasm]
        case exactRetry =>
          dsimp only
          rwa [(acceptBody_same _ _ _).reasm]
        all_goals exact hstart
    · exact .same

theorem finalizeIfNeeded_cases (env : Env) (eng : FragState.Engine P) (ctx : UInt32)
    (handle : UInt64) (intent : FragState.AckIntent) (st : FragState.Status) :
    (finalizeIfNeeded env eng ctx handle intent st).2.1 = eng ∨ st = .needDigest ∧
      ∃ dig, (finalizeIfNeeded env eng ctx handle intent st).2.1 =
        (FragState.finalize eng ctx handle dig).2.1 := by
  unfold finalizeIfNeeded
  split_ifs with hst
  · exact .inl rfl
  · split
    · exact .inl rfl
    · split
      · exact .inl rfl
      · rename_i dig _
        exact .inr ⟨not_not.1 hst, dig, rfl⟩

theorem rxCont_touches (s : Sess P) (f : OuterDataFields) (i : ℕ) (Le : Lane) (blob : List UInt8)
    (cap : Option ℕ) (d : Storage) : Touches env s.keyGeneration blob s.reasm
      (rxCont env s f i Le blob cap d).sess.reasm := by
  unfold rxCont
  split
  · exact .same
  · rename_i ef body chunk hopen
    split
    · dsimp only
      split_ifs
      · exact .cont (contIn ef.e2eContextId s.keyGeneration body chunk) rfl
      · rw [(acceptBody_same _ _ _).reasm]
        dsimp only
        rcases finalizeIfNeeded_cases env _ ef.e2eContextId body.transferHandle _ _ with
          heq | ⟨hneed, dig, heq⟩
        · rw [heq]
          exact .cont (contIn ef.e2eContextId s.keyGeneration body chunk) rfl
        · rw [heq]
          exact .final (contIn ef.e2eContextId s.keyGeneration body chunk) dig rfl hneed
      · exact .cont (contIn ef.e2eContextId s.keyGeneration body chunk) rfl
    · exact .same

theorem txApplyFragAck_same (s : Sess P) (body : AckBody) :
    SameBut s (txApplyFragAck s body).2 := by
  unfold txApplyFragAck
  split
  · exact .refl s
  · split_ifs
    all_goals exact ⟨rfl, rfl, (SameBut.refl s).lanes⟩

variable {Le : Lane}

theorem rxAck_same {s : Sess P} (hi : s.lanes[i]? = some Le) (f : OuterDataFields)
    (blob : List UInt8) (cap : Option ℕ) (d : Storage) :
    SameBut s (rxAck env s f i Le blob cap d).sess := by
  unfold rxAck
  split
  · exact .refl s
  · rename_i ef body hopen
    have hadm := sameBut_admit hi d.e2e ef.e2eCounter
    rcases hlane : laneRxAdmit Le d.e2e ef.e2eCounter with ⟨st, L'⟩
    rw [hlane] at hadm
    cases st
    case ok =>
      have happly := hadm.trans (txApplyFragAck_same (s.setLane i L') body)
      dsimp only
      rcases hres : txApplyFragAck (s.setLane i L') body with ⟨st, s'⟩
      rw [hres] at happly
      cases st
      case ok => exact happly.trans (acceptBody_same _ _ _)
      all_goals exact happly
    all_goals exact hadm

theorem replayedStart_same (h : SameBut s s') :
    replayedStart env s' hdr blob = replayedStart env s hdr blob := by
  unfold replayedStart
  rw [h.keyGeneration]

/-- A message that was seen before reaches the engine only as a START. -/
theorem rxReplay_reasm (s : Sess P) (f : OuterDataFields) (hdr : E2eFields) (blob : List UInt8)
    (cap : Option ℕ) (d : Storage) : (rxReplay env s f hdr blob cap d).sess.reasm =
      match replayedStart env s hdr blob with
      | some inp => (FragState.admitStart s.reasm inp).2.1
      | none => s.reasm := by
  unfold rxReplay
  have hsame : SameBut s (ackHop env s f cap d).1 := ackHop_same s
  dsimp only
  rw [replayedStart_same hsame]
  cases replayedStart env s hdr blob with
  | none => exact hsame.reasm
  | some inp =>
    dsimp only
    rw [hsame.reasm]
    rcases FragState.admitStart s.reasm inp with ⟨st, eng, intent⟩
    cases st
    all_goals rfl

/-! ### What the handler reaches -/

/-- The hop of the frame is admitted and the message inside belongs to a lane. -/
structure Reaches (env : Env) (s : Sess P) (frame : List UInt8) (d : Storage) (f : OuterDataFields)
    (blob : List UInt8) (s' : Sess P) (hdr : E2eFields) (i : ℕ) (Le : Lane) : Prop where
  hop : rxHop env s frame d = .ok (f, blob, s')
  header : structuralE2eHeader blob = .ok hdr
  lane : laneFind s'.lanes laneE2e hdr.e2eContextId = some (i, Le)

/-- The message in a frame and its lane. -/
def reached (env : Env) (s : Sess P) (frame : List UInt8) (d : Storage) :
    Option (E2eFields × List UInt8 × Lane) :=
  match rxHop env s frame d with
  | .error _ => none
  | .ok (_, blob, s') =>
    match structuralE2eHeader blob with
    | .error _ => none
    | .ok hdr => (laneFind s'.lanes laneE2e hdr.e2eContextId).map fun r => (hdr, blob, r.2)

theorem reaches_of_reached (h : reached env s frame d = some (hdr, blob, Le)) :
    ∃ f s' i, Reaches env s frame d f blob s' hdr i Le := by
  unfold reached at h
  split at h
  · cases h
  · rename_i f blob' s' hhop
    split at h
    · cases h
    · rename_i hdr' hheader
      obtain ⟨⟨i, L⟩, hlane, heq⟩ := Option.map_eq_some_iff.1 h
      cases heq
      exact ⟨f, s', i, hhop, hheader, hlane⟩

theorem Reaches.reached {i : ℕ} (h : Reaches env s frame d f blob s' hdr i Le) :
    reached env s frame d = some (hdr, blob, Le) := by
  unfold FragSession.reached
  simp only [h.hop, h.header, h.lane]
  rfl

/-- The branch of a message with a fresh counter. -/
def rxFresh (env : Env) (s : Sess P) (f : OuterDataFields) (hdr : E2eFields) (i : ℕ) (Le : Lane)
    (blob : List UInt8) (cap : Option ℕ) (d : Storage) : Outcome P :=
  if hdr.e2eType = e2eTypeStart then rxStart env s f i Le blob cap d
  else if hdr.e2eType = e2eTypeCont then rxCont env s f i Le blob cap d
  else if hdr.e2eType = e2eTypeAck then rxAck env s f i Le blob cap d
  else .stop .struct s

theorem Reaches.rxData_fresh {i : ℕ} (h : Reaches env s frame d f blob s' hdr i Le)
    (hfresh : laneRxPrecheck Le hdr.e2eCounter = .ok) :
    rxData env s frame cap d = rxFresh env s' f hdr i Le blob cap d := by
  unfold rxData
  simp only [h.hop, h.header, h.lane, hfresh]
  rfl

theorem Reaches.rxData_replay {i : ℕ} (h : Reaches env s frame d f blob s' hdr i Le)
    (hreplay : laneRxPrecheck Le hdr.e2eCounter = .replay) :
    rxData env s frame cap d = rxReplay env s' f hdr blob cap d := by
  unfold rxData
  simp only [h.hop, h.header, h.lane, hreplay]

/-- **The handler** stops before the message, replays it or takes it. -/
theorem rxData_cases (env : Env) (s : Sess P) (frame : List UInt8) (cap : Option ℕ) (d : Storage) :
    SameBut s (rxData env s frame cap d).sess ∨ ∃ f blob s' hdr i Le,
      Reaches env s frame d f blob s' hdr i Le ∧
        (laneRxPrecheck Le hdr.e2eCounter = .replay ∨ laneRxPrecheck Le hdr.e2eCounter = .ok) := by
  cases hhop : rxHop env s frame d with
  | error r =>
    refine .inl ?_
    unfold rxData
    rw [hhop]
    exact rxHop_error hhop
  | ok r =>
    obtain ⟨f, blob, s'⟩ := r
    have hsame := rxHop_ok hhop
    cases hheader : structuralE2eHeader blob with
    | error st =>
      refine .inl ?_
      unfold rxData
      simp only [hhop, hheader]
      exact hsame
    | ok hdr =>
      cases hlane : laneFind s'.lanes laneE2e hdr.e2eContextId with
      | none =>
        refine .inl ?_
        unfold rxData
        simp only [hhop, hheader, hlane]
        exact hsame
      | some r =>
        obtain ⟨i, Le⟩ := r
        cases hcheck : laneRxPrecheck Le hdr.e2eCounter
        case ok => exact .inr ⟨f, blob, s', hdr, i, Le, ⟨hhop, hheader, hlane⟩, .inr hcheck⟩
        case replay => exact .inr ⟨f, blob, s', hdr, i, Le, ⟨hhop, hheader, hlane⟩, .inl hcheck⟩
        all_goals
          refine .inl ?_
          unfold rxData
          simp only [hhop, hheader, hlane, hcheck]
          exact hsame

theorem rxFresh_touches {s : Sess P} (hi : s.lanes[i]? = some Le)
    (f : OuterDataFields) (hdr : E2eFields) (blob : List UInt8) (cap : Option ℕ) (d : Storage) :
    Touches env s.keyGeneration blob s.reasm (rxFresh env s f hdr i Le blob cap d).sess.reasm := by
  unfold rxFresh
  split_ifs
  · exact rxStart_touches s f i Le blob cap d
  · exact rxCont_touches s f i Le blob cap d
  · rw [(rxAck_same hi f blob cap d).reasm]
    exact .same
  · exact .same

/-! ### Lanes of the session that the handler leaves -/

/-- The counter of the message was taken by its lane. -/
def Taken (s : Sess P) (i : ℕ) (c : UInt64) : Prop :=
  ∃ L, s.lanes[i]? = some L ∧ L.kind = laneE2e ∧ L.rxReplay c = true

theorem Taken.keeps {c : UInt64} (h : Taken s i c)
    (hsame : List.Forall₂ Lane.Keeps s.lanes s'.lanes) :
    Taken s' i c := by
  obtain ⟨L, hi, hkind, hreplay⟩ := h
  obtain ⟨hlt, rfl⟩ := List.getElem?_eq_some_iff.1 hi
  have hlt' : i < s'.lanes.length := hsame.length_eq ▸ hlt
  have hkeep := hsame.get hlt hlt'
  exact ⟨_, List.getElem?_eq_getElem hlt', hkeep.kind.trans hkind, hkeep.replay hkind c hreplay⟩

/-- What a message leaves of the lanes: they keep what they took, and a message that reached the
engine is taken. -/
structure Admits (s : Sess P) (i : ℕ) (c : UInt64) (s' : Sess P) : Prop where
  lanes : List.Forall₂ Lane.Keeps s.lanes s'.lanes
  keyGeneration : s'.keyGeneration = s.keyGeneration
  taken : s'.reasm = s.reasm ∨ Taken s' i c

theorem SameBut.admits (h : SameBut s s') (i : ℕ) (c : UInt64) : Admits s i c s' :=
  ⟨h.lanes, h.keyGeneration, .inl h.reasm⟩

theorem Admits.accept {c : UInt64} (h : Admits s i c s') (intent : FragState.AckIntent)
    (st : Result) : Admits s i c (acceptBody env s' f intent st cap d).sess := by
  have hsame : SameBut s' (acceptBody env s' f intent st cap d).sess := acceptBody_same s' intent st
  refine ⟨keeps_trans h.lanes hsame.lanes, hsame.keyGeneration.trans h.keyGeneration, ?_⟩
  rcases h.taken with heng | htaken
  · exact .inl (hsame.reasm.trans heng)
  · exact .inr (htaken.keeps hsame.lanes)

theorem admits_body {c : UInt64} {w : Write} (hi : s.lanes[i]? = some Le)
    (hkind : Le.kind = laneE2e) (hadm : laneRxAdmit Le w c = (.ok, L'))
    (eng : FragState.Engine P) : Admits s i c { s.setLane i L' with reasm := eng } := by
  obtain ⟨hkeep, htaken⟩ := laneRxAdmit_cases Le w c
  rw [hadm] at hkeep htaken
  obtain ⟨hlt, -⟩ := List.getElem?_eq_some_iff.1 hi
  refine ⟨forall₂_set hi hkeep, rfl, .inr ⟨L', ?_, hkeep.kind.trans hkind, htaken rfl⟩⟩
  exact List.getElem?_set_self hlt

theorem rxStart_admits (hi : s.lanes[i]? = some Le) (hkind : Le.kind = laneE2e)
    (hheader : structuralE2eHeader blob = .ok hdr) (f : OuterDataFields) (cap : Option ℕ)
    (d : Storage) : Admits s i hdr.e2eCounter (rxStart env s f i Le blob cap d).sess := by
  unfold rxStart
  cases hopen : openE2eStart env.provider env.keys.e2eKey env.keys.e2eIv blob with
  | error st => exact (SameBut.refl s).admits i _
  | ok r =>
    obtain ⟨ef, body, first⟩ := r
    have hef : ef.e2eCounter = hdr.e2eCounter := by
      rw [(openE2eStart_ok hopen).1, structuralE2eHeader_ok hheader]
    dsimp only
    rw [hef]
    have hrefuse := sameBut_admit hi d.e2e hdr.e2eCounter
    rcases hadm : laneRxAdmit Le d.e2e hdr.e2eCounter with ⟨st, L'⟩
    rw [hadm] at hrefuse
    cases st
    case ok =>
      have hbody := admits_body hi hkind hadm
      dsimp only
      cases startFingerprint env.provider.toProvider body first with
      | error st => exact hbody s.reasm
      | ok fp =>
        dsimp only
        rcases FragState.admitStart (s.setLane i L').reasm
          (startIn ef.e2eContextId (s.setLane i L').keyGeneration body first fp) with
          ⟨st, eng, intent⟩
        cases st
        case ok => exact (hbody eng).accept _ _
        case exactRetry => exact (hbody eng).accept _ _
        all_goals exact hbody eng
    all_goals exact hrefuse.admits i _

theorem rxCont_admits (hi : s.lanes[i]? = some Le) (hkind : Le.kind = laneE2e)
    (hheader : structuralE2eHeader blob = .ok hdr) (f : OuterDataFields) (cap : Option ℕ)
    (d : Storage) : Admits s i hdr.e2eCounter (rxCont env s f i Le blob cap d).sess := by
  unfold rxCont
  cases hopen : openE2eCont env.provider env.keys.e2eKey env.keys.e2eIv blob with
  | error st => exact (SameBut.refl s).admits i _
  | ok r =>
    obtain ⟨ef, body, chunk⟩ := r
    have hef : ef.e2eCounter = hdr.e2eCounter := by
      rw [(openE2eCont_ok hopen).1, structuralE2eHeader_ok hheader]
    dsimp only
    rw [hef]
    have hrefuse := sameBut_admit hi d.e2e hdr.e2eCounter
    rcases hadm : laneRxAdmit Le d.e2e hdr.e2eCounter with ⟨st, L'⟩
    rw [hadm] at hrefuse
    cases st
    case ok =>
      have hbody := admits_body hi hkind hadm
      dsimp only
      split_ifs
      · exact hbody _
      · exact (hbody _).accept _ _
      · exact hbody _
    all_goals exact hrefuse.admits i _

/-- **A fresh message** that reaches the engine is taken by its lane. -/
theorem rxFresh_admits (hi : s.lanes[i]? = some Le) (hkind : Le.kind = laneE2e)
    (hheader : structuralE2eHeader blob = .ok hdr) (f : OuterDataFields) (cap : Option ℕ)
    (d : Storage) : Admits s i hdr.e2eCounter (rxFresh env s f hdr i Le blob cap d).sess := by
  unfold rxFresh
  split_ifs
  · exact rxStart_admits hi hkind hheader f cap d
  · exact rxCont_admits hi hkind hheader f cap d
  · exact (rxAck_same hi f blob cap d).admits i _
  · exact (SameBut.refl s).admits i _

theorem rxReplay_lanes (s : Sess P) (f : OuterDataFields) (hdr : E2eFields) (blob : List UInt8)
    (cap : Option ℕ) (d : Storage) :
    List.Forall₂ Lane.Keeps s.lanes (rxReplay env s f hdr blob cap d).sess.lanes ∧
      (rxReplay env s f hdr blob cap d).sess.keyGeneration = s.keyGeneration := by
  have hsame : SameBut s (ackHop env s f cap d).1 := ackHop_same s
  unfold rxReplay
  dsimp only
  cases replayedStart env (ackHop env s f cap d).1 hdr blob with
  | none => exact ⟨hsame.lanes, hsame.keyGeneration⟩
  | some inp =>
    dsimp only
    rcases FragState.admitStart (ackHop env s f cap d).1.reasm inp with ⟨st, eng, intent⟩
    cases st
    all_goals exact ⟨hsame.lanes, hsame.keyGeneration⟩

/-! ### What every state satisfies -/

/-- The engine accounts for its tombstones, and a session with a lane has a key generation. -/
structure Sound (s : Sess P) : Prop where
  accounted : FragState.Accounted s.reasm
  lanes : ∀ L ∈ s.lanes, L.keyGeneration ≠ 0
  generation : s.lanes ≠ [] → s.keyGeneration ≠ 0

theorem keeps_generation {lanes' : List Lane} (h : List.Forall₂ Lane.Keeps lanes lanes')
    (hgen : ∀ L ∈ lanes, L.keyGeneration ≠ 0) : ∀ L ∈ lanes', L.keyGeneration ≠ 0 := by
  induction h with
  | nil => exact fun L hL => absurd hL List.not_mem_nil
  | @cons a b _ _ hab _ ih =>
    intro L hL
    rcases List.mem_cons.1 hL with rfl | hL
    · rw [hab.keyGeneration]
      exact hgen a List.mem_cons_self
    · exact ih (fun x hx => hgen x (List.mem_cons_of_mem _ hx)) L hL

theorem Sound.keeps (h : Sound s) (heng : FragState.Accounted s'.reasm)
    (hlanes : List.Forall₂ Lane.Keeps s.lanes s'.lanes)
    (hgen : s'.keyGeneration = s.keyGeneration) : Sound s' := by
  refine ⟨heng, keeps_generation hlanes h.lanes, fun hne => ?_⟩
  rw [hgen]
  refine h.generation fun hnil => hne ?_
  rw [hnil] at hlanes
  exact List.forall₂_nil_left_iff.1 hlanes

theorem Touches.accounted {keyGeneration : UInt64} {eng eng' : FragState.Engine P}
    (h : Touches env keyGeneration blob eng eng') (hacc : FragState.Accounted eng) :
    FragState.Accounted eng' := by
  cases h with
  | same => exact hacc
  | start ef body first fp hopen => exact hacc.effect (FragState.admitStart_effect hacc _).effect
  | cont inp _ => exact hacc.effect (FragState.admitCont_effect hacc inp).effect
  | final inp dig _ _ =>
    have hmid := hacc.effect (FragState.admitCont_effect hacc inp).effect
    exact hmid.effect (FragState.finalize_effect hmid _ _ _).1

theorem sound_init : Sound (Sess.init P) where
  accounted := FragState.inv_init.accounted
  lanes := fun _ hL => absurd hL List.not_mem_nil
  generation := fun hne => absurd rfl hne

theorem adopt_reasm (s : Sess P) (kind : UInt8) (ctx : UInt32) (keyGeneration : UInt64) :
    (s.adopt kind ctx keyGeneration).reasm = s.reasm ∧
      (s.adopt kind ctx keyGeneration).keyGeneration = keyGeneration := by
  unfold Sess.adopt
  split_ifs
  all_goals exact ⟨rfl, rfl⟩

/-- After a restart the key generation is that of the last lane. -/
theorem foldl_adopt_generation (lanes : List Lane) (t : Sess P)
    (hgen : ∀ L ∈ lanes, L.keyGeneration ≠ 0) (ht : lanes = [] → t.keyGeneration ≠ 0) :
    (lanes.foldl (fun t L => t.adopt L.kind L.contextId L.keyGeneration) t).keyGeneration ≠ 0 := by
  induction lanes generalizing t with
  | nil => exact ht rfl
  | cons a as ih =>
    refine ih _ (fun L hL => hgen L (List.mem_cons_of_mem _ hL)) fun _ => ?_
    rw [(adopt_reasm t _ _ _).2]
    exact hgen a List.mem_cons_self

theorem Sound.rxData (h : Sound s) (frame : List UInt8) (cap : Option ℕ) (d : Storage) :
    Sound (rxData env s frame cap d).sess := by
  rcases rxData_cases env s frame cap d with hsame | ⟨f, blob, s', hdr, i, Le, hreach, hcheck⟩
  · exact h.keeps (hsame.reasm ▸ h.accounted) hsame.lanes hsame.keyGeneration
  · have hhop := rxHop_ok hreach.hop
    have hacc : FragState.Accounted s'.reasm := hhop.reasm ▸ h.accounted
    obtain ⟨hi, hkind, -⟩ := laneFind_eq_some hreach.lane
    rcases hcheck with hreplay | hfresh
    · rw [hreach.rxData_replay hreplay]
      obtain ⟨hlanes, hgen⟩ :
          List.Forall₂ Lane.Keeps s'.lanes (rxReplay env s' f hdr blob cap d).sess.lanes ∧
          (rxReplay env s' f hdr blob cap d).sess.keyGeneration = s'.keyGeneration :=
        rxReplay_lanes s' f hdr blob cap d
      refine h.keeps ?_ (keeps_trans hhop.lanes hlanes) (hgen.trans hhop.keyGeneration)
      rw [rxReplay_reasm]
      split
      · exact hacc.effect (FragState.admitStart_effect hacc _).effect
      · exact hacc
    · rw [hreach.rxData_fresh hfresh]
      have hadmits : Admits s' i hdr.e2eCounter (rxFresh env s' f hdr i Le blob cap d).sess :=
        rxFresh_admits hi hkind hreach.header f cap d
      exact h.keeps ((rxFresh_touches hi f hdr blob cap d).accounted hacc)
        (keeps_trans hhop.lanes hadmits.lanes) (hadmits.keyGeneration.trans hhop.keyGeneration)

theorem Sends.keeps (h : Sends L L') : L.Keeps L' := by
  refine ⟨h.kind, h.contextId, h.keyGeneration, fun hkind c hc => ?_, fun hkind hc => ?_⟩
  all_goals
    have hack : L.kind ≠ laneHopAck := by
      rw [hkind]
      decide
    obtain ⟨hhigh, hbits, haccept⟩ := h.receives hack
  · rwa [Lane.rxReplay, h.floor, hhigh, hbits]
  · exact ⟨by rw [h.floor, haccept]; exact hc.floor, by rw [hhigh, haccept]; exact hc.highest⟩

theorem Sound.apply (h : Sound s) {c : Call} (hallowed : c.Allowed s) : Sound (c.apply env s) := by
  have hlanes := (SameBut.refl s).lanes
  cases c with
  | setNow now => exact h.keeps h.accounted hlanes rfl
  | tick now => exact h.keeps (FragState.tick_effect h.accounted now).1 hlanes rfl
  | installLane kind contextId keyGeneration w =>
    show Sound (FragSession.installLane s kind contextId keyGeneration w).2
    unfold FragSession.installLane
    split_ifs with hclass hfound hfull hw
    · exact h
    · exact h
    · exact h
    · exact h
    · simp only [not_or] at hclass
      refine ⟨?_, fun L hL => ?_, fun _ => ?_⟩
      · exact (adopt_reasm s kind contextId keyGeneration).1 ▸ h.accounted
      · rcases List.mem_append.1 hL with hL | hL
        · exact h.lanes L hL
        · rw [List.mem_singleton.1 hL]
          exact hclass.1
      · rw [(adopt_reasm s kind contextId keyGeneration).2]
        exact hclass.1
  | rxData frame cap d => exact h.rxData frame cap d
  | takePublication outCap =>
    refine h.keeps ?_ hlanes rfl
    exact h.accounted.effect (FragState.takePublication_effect s.reasm outCap).effect
  | restart =>
    refine ⟨FragState.inv_init.accounted, fun L hL => ?_, fun hne => ?_⟩
    · obtain ⟨K, hK, rfl⟩ := List.mem_map.1 hL
      exact h.lanes K hK
    · refine foldl_adopt_generation s.lanes _ h.lanes fun hnil => absurd ?_ hne
      exact List.map_eq_nil_iff.2 hnil
  | transmit lanes tx =>
    exact h.keeps h.accounted (hallowed.imp fun _ _ hs => hs.keeps) rfl

/-- **Every reachable session is sound.** -/
theorem Run.sound {ok : Sess P → Call → Prop} {l : Ledger P} (h : Run env ok s l) : Sound s := by
  induction h with
  | init => exact sound_init
  | next c _ hallowed _ ih => exact ih.apply hallowed

end Ninlil.FragSession
