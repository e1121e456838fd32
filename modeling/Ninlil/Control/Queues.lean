import Ninlil.Control.Session
import Ninlil.Lib.PooledRing

/-!
# The frame queues of a session

`control_session.c`: the ingress queue and the transmit intents as they are kept, two rings of
sixteen descriptors over pools of 8192 bytes, against the lists that the session model works on.

* `IngressRing`, `IntentRing` and the operations under their names in the source;
* `Pools`, `Pools.step`: both queues with the wire buffer, under every operation that touches them;
* `Fifos`, `Fifos.step`: the same as lists of frames;
* `Pools.Refines`, `refines_step`: one operation, done on both;
* `queues_refine_fifos`: so they agree after every run;
* `session_refined`: the lists are those that the session model works on.
-/

namespace Ninlil.Control
namespace Queues

open Bytes Ninlil.Ring

/-! ### The rings -/

/-- `ninlil_cs_ingress_entry_t`, its payload apart. -/
structure IngressFields where
  type : UInt8 := 0
  flags : UInt16 := 0
  streamOrCellId : UInt32 := 0
  sequence : UInt32 := 0
  deriving DecidableEq

instance : Inhabited IngressFields := ⟨{}⟩

/-- `ninlil_cs_intent_entry_t`, its payload apart. -/
structure IntentFields where
  type : UInt8 := 0
  flags : UInt16 := 0
  streamOrCellId : UInt32 := 0
  sequence : UInt32 := 0
  trackedToken : UInt64 := 0
  deriving DecidableEq

instance : Inhabited IntentFields := ⟨{}⟩

abbrev IngressRing := PooledRing IngressFields

abbrev IntentRing := PooledRing IntentFields

/-- `ingress_compact`. -/
def ingressCompact (q : IngressRing) : IngressRing :=
  if q.count = 0 then { q with head := 0, bytes := 0 }
  else (q.reorder ingressMaxEntries (q.order ingressMaxEntries)).pack

/-- `intent_compact`: the ring is reordered only when its head is not in front. -/
def intentCompact (q : IntentRing) : IntentRing :=
  if q.count = 0 then { q with head := 0, bytes := 0 }
  else if q.head ≠ 0 then (q.reorder txIntentMaxEntries (q.order txIntentMaxEntries)).pack
  else q.pack

/-- `ingress_try_enqueue`. -/
def ingressTryEnqueue (q : IngressRing) (view : FrameFields) : Option IngressRing :=
  q.tryEnqueue ingressMaxEntries ingressByteCap
    { type := view.type, flags := view.flags, streamOrCellId := view.streamOrCellId
      sequence := view.sequence } view.payload

/-- `intent_try_enqueue`. -/
def intentTryEnqueue (q : IntentRing) (fields : FrameFields) (trackedToken : UInt64) :
    Option IntentRing :=
  if fields.payload.length > maxPayloadBytes then none
  else
    q.tryEnqueue txIntentMaxEntries txIntentByteCap
      { type := fields.type, flags := fields.flags, streamOrCellId := fields.streamOrCellId
        sequence := fields.sequence, trackedToken := trackedToken } fields.payload

/-- `intent_pop_head`. -/
def intentPopHead (q : IntentRing) : IntentRing :=
  if q.count = 0 then q
  else intentCompact { q with head := (q.head + 1) % txIntentMaxEntries, count := q.count - 1 }

/-- `intent_remove_tracked_token`. -/
def intentRemoveTrackedToken (q : IntentRing) (token : UInt64) : Bool × IntentRing :=
  if token = 0 ∨ q.count = 0 then (false, q)
  else
    let kept := (q.order txIntentMaxEntries).filter fun d => d.fields.trackedToken != token
    if kept.length = q.count then (false, q)
    else (true, ({ q with count := kept.length }.reorder txIntentMaxEntries kept).pack)

/-- The end of `ninlil_ctrl_session_take_rx`, on a bound session. -/
def takeRx (q : IngressRing) (payloadCapacity : ℕ) :
    SessionStatus × Option FrameFields × IngressRing :=
  if q.count = 0 then (.needMore, none, q)
  else
    let e := q.entry ingressMaxEntries 0
    if e.payloadLength > 0 ∧ payloadCapacity < e.payloadLength then (.invalidArgument, none, q)
    else
      (.ok,
        some
          { type := e.fields.type
            flags := e.fields.flags
            streamOrCellId := e.fields.streamOrCellId
            sequence := e.fields.sequence
            payload := slice q.pool e.payloadOff e.payloadLength },
        ingressCompact
          { q with head := (q.head + 1) % ingressMaxEntries, count := q.count - 1 })

/-- Both queues, with the frame on the wire that is not yet accepted. -/
structure Pools where
  ingress : IngressRing := .init IngressFields ingressMaxEntries ingressByteCap
  intent : IntentRing := .init IntentFields txIntentMaxEntries txIntentByteCap
  txWire : List UInt8 := []

/-- `encode_intent_head_to_wire`. -/
def encodeIntentHeadToWire (p : Pools) : SessionStatus × Pools :=
  if p.txWire ≠ [] then (.ok, p)
  else if p.intent.count = 0 then (.ok, p)
  else
    let e := p.intent.entry txIntentMaxEntries 0
    let fields : FrameFields :=
      { type := e.fields.type
        flags := e.fields.flags
        streamOrCellId := e.fields.streamOrCellId
        sequence := e.fields.sequence
        payload := if e.payloadLength = 0 then []
          else slice p.intent.pool e.payloadOff e.payloadLength }
    match encodeFrame fields maxBytes with
    | none => (.invalidArgument, p)
    | some bytes => (.ok, { p with intent := intentPopHead p.intent, txWire := bytes })

/-- `discard_ingress_only`. -/
def discardIngressOnly (q : IngressRing) : IngressRing :=
  { q with head := 0, count := 0, bytes := 0, slots := List.replicate ingressMaxEntries default }

/-- `discard_queues`. -/
def discardQueues (p : Pools) : Pools where
  ingress := discardIngressOnly p.ingress
  intent :=
    { p.intent with
      head := 0, count := 0, bytes := 0, slots := List.replicate txIntentMaxEntries default }
  txWire := []

/-! ### Operations -/

/-- What touches the queues of a bound session. -/
inductive QueueOp
  /-- A frame off the parser. -/
  | frame (view : FrameFields)
  | take (payloadCapacity : ℕ)
  /-- `submit_tx` with token `0`, or `tracked_submit_tx` with the token it mints. -/
  | submit (fields : FrameFields) (trackedToken : UInt64)
  | encode
  /-- The stream accepts so many bytes of the frame on the wire. -/
  | accept (n : ℕ)
  | cancel (token : UInt64)
  | discardIngress
  | discardAll

/-- What an operation answers. -/
inductive QueueAnswer
  | done
  /-- The queue has no room: the frame is dropped, or `WOULD_BLOCK`. -/
  | refused
  | status (status : SessionStatus)
  | taken (frame : FrameFields)
  deriving DecidableEq

def Pools.step (p : Pools) : QueueOp → QueueAnswer × Pools
  | .frame view =>
    match ingressTryEnqueue p.ingress view with
    | none => (.refused, p)
    | some q => (.done, { p with ingress := q })
  | .take payloadCapacity =>
    match takeRx p.ingress payloadCapacity with
    | (_, some frame, q) => (.taken frame, { p with ingress := q })
    | (st, none, q) => (.status st, { p with ingress := q })
  | .submit fields trackedToken =>
    if fieldsAreGood fields = false then (.status .invalidArgument, p)
    else
      match intentTryEnqueue p.intent fields trackedToken with
      | none => (.refused, p)
      | some q => (.done, { p with intent := q })
  | .encode =>
    let r := encodeIntentHeadToWire p
    (.status r.1, r.2)
  | .accept n => (.done, { p with txWire := p.txWire.drop n })
  | .cancel token => (.done, { p with intent := (intentRemoveTrackedToken p.intent token).2 })
  | .discardIngress => (.done, { p with ingress := discardIngressOnly p.ingress })
  | .discardAll => (.done, discardQueues p)

/-- The queues as lists. -/
structure Fifos where
  ingress : List FrameFields := []
  intent : List IntentEntry := []
  txWire : List UInt8 := []

/-- The operations on lists: frames go in behind and come out in front. -/
def Fifos.step (f : Fifos) : QueueOp → QueueAnswer × Fifos
  | .frame view =>
    if f.ingress.length ≥ ingressMaxEntries
        ∨ ingressByteCap < ingressBytes f.ingress + view.payload.length then (.refused, f)
    else (.done, { f with ingress := f.ingress ++ [view] })
  | .take payloadCapacity =>
    match f.ingress with
    | [] => (.status .needMore, f)
    | frame :: rest =>
      if payloadCapacity < frame.payload.length then (.status .invalidArgument, f)
      else (.taken frame, { f with ingress := rest })
  | .submit fields trackedToken =>
    if fieldsAreGood fields = false then (.status .invalidArgument, f)
    else if f.intent.length ≥ txIntentMaxEntries
        ∨ txIntentByteCap < intentBytes f.intent + fields.payload.length then (.refused, f)
    else (.done, { f with intent := f.intent ++ [{ fields, trackedToken }] })
  | .encode =>
    if f.txWire ≠ [] then (.status .ok, f)
    else
      match f.intent with
      | [] => (.status .ok, f)
      | e :: rest =>
        match encodeFrame e.fields maxBytes with
        | none => (.status .invalidArgument, f)
        | some bytes => (.status .ok, { f with intent := rest, txWire := bytes })
  | .accept n => (.done, { f with txWire := f.txWire.drop n })
  | .cancel token =>
    (.done,
      { f with
        intent := if token = 0 then f.intent
          else f.intent.filter fun e => e.trackedToken != token })
  | .discardIngress => (.done, { f with ingress := [] })
  | .discardAll => (.done, {})

/-! ### Refinement -/

/-- An ingress frame as an item of its ring. -/
def ingressItem (f : FrameFields) : Item IngressFields :=
  ({ type := f.type, flags := f.flags, streamOrCellId := f.streamOrCellId
     sequence := f.sequence }, f.payload)

/-- An intent as an item of its ring. -/
def intentItem (e : IntentEntry) : Item IntentFields :=
  ({ type := e.fields.type, flags := e.fields.flags, streamOrCellId := e.fields.streamOrCellId
     sequence := e.fields.sequence, trackedToken := e.trackedToken }, e.fields.payload)

theorem totalBytes_ingress (xs : List FrameFields) :
    totalBytes (xs.map ingressItem) = ingressBytes xs := by
  rw [totalBytes, List.map_map]
  rfl

theorem totalBytes_intent (xs : List IntentEntry) :
    totalBytes (xs.map intentItem) = intentBytes xs := by
  rw [totalBytes, List.map_map]
  rfl

/-- The pools hold the lists. -/
structure Refines (p : Pools) (f : Fifos) : Prop where
  ingress : IsQueue ingressMaxEntries ingressByteCap p.ingress (f.ingress.map ingressItem)
  intent : IsQueue txIntentMaxEntries txIntentByteCap p.intent (f.intent.map intentItem)
  txWire : p.txWire = f.txWire

theorem refines_init : Refines {} {} := ⟨isQueue_init _ _, isQueue_init _ _, rfl⟩

variable {p : Pools} {f : Fifos}

theorem isQueue_ingressCompact {q : IngressRing} {x : Item IngressFields}
    {xs : List (Item IngressFields)} (h : IsQueue ingressMaxEntries ingressByteCap q (x :: xs)) :
    IsQueue ingressMaxEntries ingressByteCap
      (ingressCompact { q with head := (q.head + 1) % ingressMaxEntries, count := q.count - 1 })
      xs := by
  obtain ⟨hlen, hholds⟩ := h.popped
  have hcount := h.count
  have hle := h.count_le
  have hbytes := h.bytes
  have hcap := h.bytes_le
  rw [totalBytes_cons] at hbytes
  rw [List.length_cons] at hcount
  unfold ingressCompact
  by_cases hz : q.count - 1 = 0
  · have hnil : xs = [] := List.length_eq_zero_iff.1 (by omega)
    rw [if_pos hz, hnil]
    exact isQueue_nil h.slots h.pool hz
  · rw [if_neg hz]
    exact isQueue_reorder_pack h.pool (by dsimp only; omega) (by omega) (by omega) hholds

theorem isQueue_intentPopHead {q : IntentRing} {x : Item IntentFields}
    {xs : List (Item IntentFields)} (h : IsQueue txIntentMaxEntries txIntentByteCap q (x :: xs)) :
    IsQueue txIntentMaxEntries txIntentByteCap (intentPopHead q) xs := by
  obtain ⟨hlen, hholds⟩ := h.popped
  have hcount := h.count
  have hle := h.count_le
  have hbytes := h.bytes
  have hcap := h.bytes_le
  rw [totalBytes_cons] at hbytes
  rw [List.length_cons] at hcount
  unfold intentPopHead intentCompact
  rw [if_neg (by omega)]
  by_cases hz : q.count - 1 = 0
  · have hnil : xs = [] := List.length_eq_zero_iff.1 (by omega)
    rw [if_pos hz, hnil]
    exact isQueue_nil h.slots h.pool hz
  · have hhead : (q.head + 1) % txIntentMaxEntries ≠ 0 := by
      rw [h.head]
      decide
    rw [if_neg hz, if_pos hhead]
    exact isQueue_reorder_pack h.pool (by dsimp only; omega) (by omega) (by omega) hholds

theorem isQueue_intentRemove {q : IntentRing} {xs : List IntentEntry}
    (h : IsQueue txIntentMaxEntries txIntentByteCap q (xs.map intentItem)) (token : UInt64) :
    IsQueue txIntentMaxEntries txIntentByteCap (intentRemoveTrackedToken q token).2
      ((if token = 0 then xs else xs.filter fun e => e.trackedToken != token).map intentItem) := by
  have hcount := h.count
  rw [List.length_map] at hcount
  unfold intentRemoveTrackedToken
  by_cases ht : token = 0
  · rw [if_pos (Or.inl ht), if_pos ht]
    exact h
  rw [if_neg ht]
  by_cases hz : q.count = 0
  · rw [if_pos (Or.inr hz)]
    have hnil : xs = [] := List.length_eq_zero_iff.1 (by omega)
    rw [hnil] at h ⊢
    exact h
  rw [if_neg (not_or.2 ⟨ht, hz⟩)]
  have hholds := h.laidOut.holds.filter fun fields => fields.trackedToken != token
  have hitems : (xs.map intentItem).filter (fun x => x.1.trackedToken != token) =
      (xs.filter fun e => e.trackedToken != token).map intentItem := by
    rw [List.filter_map]
    rfl
  rw [hitems] at hholds
  rw [PooledRing.order_eq h.slots h.head h.count_le]
  have hlen := hholds.length_eq
  rw [List.length_map] at hlen
  dsimp only
  by_cases hall : ((q.slots.take q.count).filter fun d => d.fields.trackedToken != token).length =
      q.count
  · -- nothing was found, so nothing has the token
    rw [if_pos hall]
    have hsame : (xs.filter fun e => e.trackedToken != token) = xs :=
      List.filter_sublist.eq_of_length (by omega)
    rw [hsame]
    exact h
  · rw [if_neg hall]
    have hle : (xs.filter fun e => e.trackedToken != token).length ≤ xs.length :=
      List.length_filter_le _ _
    have hcountle := h.count_le
    refine isQueue_reorder_pack h.pool rfl (by omega) ?_ hholds
    have hsum : totalBytes ((xs.filter fun e => e.trackedToken != token).map intentItem) ≤
        totalBytes (xs.map intentItem) := by
      unfold totalBytes
      exact List.Sublist.sum_le_sum ((List.filter_sublist.map _).map _) fun _ _ => Nat.zero_le _
    have hbytes := h.bytes
    have hcap := h.bytes_le
    omega

/-- A take answers with the first frame, and leaves the others. -/
theorem takeRx_cons {q : IngressRing} {frame : FrameFields} {rest : List FrameFields}
    (h : IsQueue ingressMaxEntries ingressByteCap q ((frame :: rest).map ingressItem))
    (payloadCapacity : ℕ) :
    takeRx q payloadCapacity =
      if payloadCapacity < frame.payload.length then (.invalidArgument, none, q)
      else
        (.ok, some frame, ingressCompact
          { q with head := (q.head + 1) % ingressMaxEntries, count := q.count - 1 }) := by
  have hcount := h.count
  rw [List.length_map, List.length_cons] at hcount
  obtain ⟨hf, hl, hp⟩ := h.head_entry
  have hframe : (⟨(q.entry ingressMaxEntries 0).fields.type,
      (q.entry ingressMaxEntries 0).fields.flags,
      (q.entry ingressMaxEntries 0).fields.streamOrCellId,
      (q.entry ingressMaxEntries 0).fields.sequence,
      slice q.pool (q.entry ingressMaxEntries 0).payloadOff
        (q.entry ingressMaxEntries 0).payloadLength⟩ : FrameFields) = frame := by
    rw [hp, hf]
    rfl
  have hlen : (q.entry ingressMaxEntries 0).payloadLength = frame.payload.length := hl
  unfold takeRx
  rw [if_neg (by omega)]
  dsimp only
  rw [hframe, hlen]
  by_cases hc : payloadCapacity < frame.payload.length
  · rw [if_pos hc, if_pos ⟨by omega, hc⟩]
  · rw [if_neg hc, if_neg fun hb => hc hb.2]

/-- The frame that is encoded is the first intent. -/
theorem encodeIntentHeadToWire_cons {e : IntentEntry} {rest : List IntentEntry}
    (h : IsQueue txIntentMaxEntries txIntentByteCap p.intent ((e :: rest).map intentItem))
    (hwire : p.txWire = []) :
    encodeIntentHeadToWire p =
      match encodeFrame e.fields maxBytes with
      | none => (.invalidArgument, p)
      | some bytes => (.ok, { p with intent := intentPopHead p.intent, txWire := bytes }) := by
  have hcount := h.count
  rw [List.length_map, List.length_cons] at hcount
  obtain ⟨hf, hl, hp⟩ := h.head_entry
  have hpayload : (if (p.intent.entry txIntentMaxEntries 0).payloadLength = 0 then []
      else slice p.intent.pool (p.intent.entry txIntentMaxEntries 0).payloadOff
        (p.intent.entry txIntentMaxEntries 0).payloadLength) = e.fields.payload := by
    by_cases hz : (p.intent.entry txIntentMaxEntries 0).payloadLength = 0
    · rw [if_pos hz]
      exact (List.length_eq_zero_iff.1 (hl.symm.trans hz)).symm
    · rw [if_neg hz, hp]
      rfl
  unfold encodeIntentHeadToWire
  rw [if_neg (not_not.2 hwire), if_neg (by omega)]
  dsimp only
  rw [hpayload, hf]
  rfl

theorem isQueue_discardIngressOnly {q : IngressRing} {xs : List (Item IngressFields)}
    (h : IsQueue ingressMaxEntries ingressByteCap q xs) :
    IsQueue ingressMaxEntries ingressByteCap (discardIngressOnly q) [] :=
  @isQueue_nil _ _ _ (discardIngressOnly q) List.length_replicate h.pool rfl

/-- **One operation, on the pools and on the lists.** -/
theorem refines_step (h : Refines p f) (op : QueueOp) :
    (p.step op).1 = (f.step op).1 ∧ Refines (p.step op).2 (f.step op).2 := by
  have hic := h.ingress.count
  have htc := h.intent.count
  rw [List.length_map] at hic htc
  cases op with
  | frame view =>
    obtain ⟨hnone, hsome⟩ := h.ingress.enqueue (ingressItem view).1 view.payload
    rw [totalBytes_ingress, List.length_map] at hnone
    simp only [Pools.step, Fifos.step]
    cases he : ingressTryEnqueue p.ingress view with
    | none =>
      rw [if_pos (hnone.1 he)]
      exact ⟨rfl, h⟩
    | some q =>
      have hroom : ¬(f.ingress.length ≥ ingressMaxEntries ∨
          ingressByteCap < ingressBytes f.ingress + view.payload.length) := by
        intro hfull
        have hfail : ingressTryEnqueue p.ingress view = none := hnone.2 hfull
        rw [he] at hfail
        cases hfail
      rw [if_neg hroom]
      refine ⟨rfl, ?_, h.intent, h.txWire⟩
      rw [List.map_append]
      exact hsome q he
  | take payloadCapacity =>
    simp only [Pools.step, Fifos.step]
    rcases hq : f.ingress with _ | ⟨frame, rest⟩
    · have hempty : takeRx p.ingress payloadCapacity = (.needMore, none, p.ingress) := by
        rw [hq, List.length_nil] at hic
        rw [takeRx, if_pos hic]
      rw [hempty]
      exact ⟨rfl, h⟩
    · have hqueue := h.ingress
      rw [hq] at hqueue
      rw [takeRx_cons hqueue]
      dsimp only
      by_cases hc : payloadCapacity < frame.payload.length
      · rw [if_pos hc, if_pos hc]
        exact ⟨rfl, h⟩
      · rw [if_neg hc, if_neg hc]
        exact ⟨rfl, isQueue_ingressCompact hqueue, h.intent, h.txWire⟩
  | submit fields trackedToken =>
    simp only [Pools.step, Fifos.step]
    by_cases hgood : fieldsAreGood fields = false
    · rw [if_pos hgood, if_pos hgood]
      exact ⟨rfl, h⟩
    rw [if_neg hgood, if_neg hgood]
    have hmax : ¬ fields.payload.length > maxPayloadBytes := by
      rw [Bool.not_eq_false, fieldsAreGood, Bool.and_eq_true, decide_eq_true_eq] at hgood
      omega
    obtain ⟨hnone, hsome⟩ :=
      h.intent.enqueue (intentItem { fields, trackedToken }).1 fields.payload
    rw [totalBytes_intent, List.length_map] at hnone
    cases he : intentTryEnqueue p.intent fields trackedToken with
    | none =>
      rw [intentTryEnqueue, if_neg hmax] at he
      rw [if_pos (hnone.1 he)]
      exact ⟨rfl, h⟩
    | some q =>
      rw [intentTryEnqueue, if_neg hmax] at he
      have hroom : ¬(f.intent.length ≥ txIntentMaxEntries ∨
          txIntentByteCap < intentBytes f.intent + fields.payload.length) := by
        intro hfull
        have hfail := he.symm.trans (hnone.2 hfull)
        cases hfail
      rw [if_neg hroom]
      refine ⟨rfl, h.ingress, ?_, h.txWire⟩
      rw [List.map_append]
      exact hsome q he
  | encode =>
    simp only [Pools.step, Fifos.step]
    by_cases hwire : p.txWire ≠ []
    · rw [encodeIntentHeadToWire, if_pos hwire, if_pos (h.txWire ▸ hwire)]
      exact ⟨rfl, h⟩
    have hnil : p.txWire = [] := not_not.1 hwire
    rw [if_neg (h.txWire ▸ hwire)]
    rcases hq : f.intent with _ | ⟨e, rest⟩
    · rw [hq, List.length_nil] at htc
      rw [encodeIntentHeadToWire, if_neg hwire, if_pos htc]
      exact ⟨rfl, h⟩
    · have hqueue := h.intent
      rw [hq] at hqueue
      rw [encodeIntentHeadToWire_cons hqueue hnil]
      dsimp only
      cases encodeFrame e.fields maxBytes with
      | none => exact ⟨rfl, h⟩
      | some bytes => exact ⟨rfl, h.ingress, isQueue_intentPopHead hqueue, rfl⟩
  | accept n => exact ⟨rfl, h.ingress, h.intent, congrArg (List.drop n) h.txWire⟩
  | cancel token => exact ⟨rfl, h.ingress, isQueue_intentRemove h.intent token, h.txWire⟩
  | discardIngress => exact ⟨rfl, isQueue_discardIngressOnly h.ingress, h.intent, h.txWire⟩
  | discardAll =>
    refine ⟨rfl, isQueue_discardIngressOnly h.ingress, ?_, rfl⟩
    exact @isQueue_nil _ _ _ (discardQueues p).intent List.length_replicate h.intent.pool rfl

/-! ### Runs -/

/-- A run of operations: what they answer, and what they leave. -/
def Pools.run (p : Pools) : List QueueOp → List QueueAnswer × Pools
  | [] => ([], p)
  | op :: ops =>
    let r := (p.step op).2.run ops
    ((p.step op).1 :: r.1, r.2)

def Fifos.run (f : Fifos) : List QueueOp → List QueueAnswer × Fifos
  | [] => ([], f)
  | op :: ops =>
    let r := (f.step op).2.run ops
    ((f.step op).1 :: r.1, r.2)

theorem refines_run (h : Refines p f) (ops : List QueueOp) :
    (p.run ops).1 = (f.run ops).1 ∧ Refines (p.run ops).2 (f.run ops).2 := by
  induction ops generalizing p f with
  | nil => exact ⟨rfl, h⟩
  | cons op ops ih =>
    obtain ⟨hanswer, hstep⟩ := refines_step h op
    obtain ⟨hanswers, hrun⟩ := ih hstep
    refine ⟨?_, hrun⟩
    simp only [Pools.run, Fifos.run]
    rw [hanswer, hanswers]

/-- The frames that the ingress ring holds, read out of its pool. -/
def ingressFrames (q : IngressRing) : List FrameFields :=
  (q.order ingressMaxEntries).map fun d =>
    { type := d.fields.type
      flags := d.fields.flags
      streamOrCellId := d.fields.streamOrCellId
      sequence := d.fields.sequence
      payload := slice q.pool d.payloadOff d.payloadLength }

/-- The intents that the ring holds, read out of its pool. -/
def intentEntries (q : IntentRing) : List IntentEntry :=
  (q.order txIntentMaxEntries).map fun d =>
    { fields :=
        { type := d.fields.type
          flags := d.fields.flags
          streamOrCellId := d.fields.streamOrCellId
          sequence := d.fields.sequence
          payload := slice q.pool d.payloadOff d.payloadLength }
      trackedToken := d.fields.trackedToken }

theorem Refines.ingressFrames_eq (h : Refines p f) : ingressFrames p.ingress = f.ingress := by
  rw [ingressFrames, h.ingress.order_map fun fields payload =>
    ({ type := fields.type, flags := fields.flags, streamOrCellId := fields.streamOrCellId
       sequence := fields.sequence, payload := payload } : FrameFields), List.map_map]
  exact List.map_id _

theorem Refines.intentEntries_eq (h : Refines p f) : intentEntries p.intent = f.intent := by
  rw [intentEntries, h.intent.order_map fun fields payload =>
    ({ fields := { type := fields.type, flags := fields.flags
                   streamOrCellId := fields.streamOrCellId, sequence := fields.sequence
                   payload := payload }
       trackedToken := fields.trackedToken } : IntentEntry), List.map_map]
  exact List.map_id _

/-- **The queues of a session are lists of frames.**  After any interleaving of the operations both
have answered alike, the rings hold the frames of the lists in order with their payloads, and their
counters are the lengths and the payload bytes of the lists. -/
theorem queues_refine_fifos (ops : List QueueOp) :
    let p := (Pools.run {} ops).2
    let f := (Fifos.run {} ops).2
    (Pools.run {} ops).1 = (Fifos.run {} ops).1 ∧
      ingressFrames p.ingress = f.ingress ∧ intentEntries p.intent = f.intent ∧
      p.txWire = f.txWire ∧
      p.ingress.count = f.ingress.length ∧ p.ingress.bytes = ingressBytes f.ingress ∧
      p.intent.count = f.intent.length ∧ p.intent.bytes = intentBytes f.intent := by
  intro p f
  obtain ⟨hanswers, h⟩ := refines_run refines_init ops
  refine ⟨hanswers, h.ingressFrames_eq, h.intentEntries_eq, h.txWire, ?_, ?_, ?_, ?_⟩
  · exact h.ingress.count.trans (List.length_map _)
  · exact h.ingress.bytes.trans (totalBytes_ingress _)
  · exact h.intent.count.trans (List.length_map _)
  · exact h.intent.bytes.trans (totalBytes_intent _)

/-! ### The session model -/

/-- The queues of the session model. -/
def fifosOf (s : Session) : Fifos := { ingress := s.ingress, intent := s.intent, txWire := s.txWire }

/-- A frame off the parser, as it is queued. -/
def frameOf (view : FrameView) : FrameFields :=
  { type := view.type, flags := view.flags, streamOrCellId := view.streamOrCellId
    sequence := view.sequence, payload := view.payload }

variable {s : Session}

theorem fifosOf_ingressTryEnqueue (h : Refines p (fifosOf s)) {view : FrameView}
    (hlen : view.payload.length = view.payloadLength) :
    fifosOf (Control.ingressTryEnqueue s view) = ((fifosOf s).step (.frame (frameOf view))).2 := by
  have hbytes : ingressBytes s.ingress ≤ ingressByteCap := by
    rw [← totalBytes_ingress]
    exact h.ingress.bytes.ge.trans h.ingress.bytes_le
  have hstep : (fifosOf s).step (.frame (frameOf view)) =
      if s.ingress.length ≥ ingressMaxEntries ∨
          ingressByteCap < ingressBytes s.ingress + view.payload.length then
        (.refused, fifosOf s)
      else (.done, { fifosOf s with ingress := s.ingress ++ [frameOf view] }) := rfl
  rw [hstep, Control.ingressTryEnqueue]
  by_cases hfull : s.ingress.length ≥ ingressMaxEntries
  · rw [if_pos hfull, if_pos (Or.inl hfull)]
  rw [if_neg hfull]
  by_cases hroom : view.payloadLength > ingressByteCap - ingressBytes s.ingress
  · rw [if_pos hroom, if_pos (by omega)]
  · rw [if_neg hroom, if_neg (by omega)]
    rfl

theorem intentTryEnqueue_eq (h : Refines p (fifosOf s)) {fields : FrameFields}
    (hgood : fieldsAreGood fields = true) (token : UInt64) :
    Control.intentTryEnqueue s fields token =
      if ((fifosOf s).step (.submit fields token)).1 = .refused then none
      else some { s with intent := ((fifosOf s).step (.submit fields token)).2.intent } := by
  have hbytes : intentBytes s.intent ≤ txIntentByteCap := by
    rw [← totalBytes_intent]
    exact h.intent.bytes.ge.trans h.intent.bytes_le
  have hmax : ¬ fields.payload.length > maxPayloadBytes := by
    rw [fieldsAreGood, Bool.and_eq_true, decide_eq_true_eq] at hgood
    omega
  have hstep : (fifosOf s).step (.submit fields token) =
      if s.intent.length ≥ txIntentMaxEntries ∨
          txIntentByteCap < intentBytes s.intent + fields.payload.length then (.refused, fifosOf s)
      else
        (.done, { fifosOf s with intent := s.intent ++ [{ fields, trackedToken := token }] }) :=
    if_neg (by simp [hgood])
  rw [hstep, Control.intentTryEnqueue, if_neg hmax]
  by_cases hfull : s.intent.length ≥ txIntentMaxEntries
  · have hfull' : s.intent.length ≥ txIntentMaxEntries ∨
        txIntentByteCap < intentBytes s.intent + fields.payload.length := Or.inl hfull
    rw [if_pos hfull, if_pos hfull', if_pos rfl]
  rw [if_neg hfull]
  by_cases hroom : fields.payload.length > txIntentByteCap - intentBytes s.intent
  · have hfull' : s.intent.length ≥ txIntentMaxEntries ∨
        txIntentByteCap < intentBytes s.intent + fields.payload.length := by omega
    rw [if_pos hroom, if_pos hfull', if_pos rfl]
  · have hfits : ¬(s.intent.length ≥ txIntentMaxEntries ∨
        txIntentByteCap < intentBytes s.intent + fields.payload.length) := by omega
    rw [if_neg hroom, if_neg hfits, if_neg (by simp)]

/-- A submission changes the intents only. -/
theorem fifosOf_submit (s : Session) (fields : FrameFields) (token : UInt64) :
    fifosOf { s with intent := ((fifosOf s).step (.submit fields token)).2.intent } =
      ((fifosOf s).step (.submit fields token)).2 := by
  simp only [Fifos.step]
  split_ifs <;> rfl

theorem fifosOf_encodeIntentHeadToWire (s : Session) :
    fifosOf (Control.encodeIntentHeadToWire s).2 = ((fifosOf s).step .encode).2 := by
  by_cases hwire : s.txWire ≠ []
  · have hstep : (fifosOf s).step .encode = (.status .ok, fifosOf s) := if_pos hwire
    rw [hstep, Control.encodeIntentHeadToWire, if_pos hwire]
  have hstep : (fifosOf s).step .encode =
      match s.intent with
      | [] => (.status .ok, fifosOf s)
      | e :: rest =>
        match encodeFrame e.fields maxBytes with
        | none => (.status .invalidArgument, fifosOf s)
        | some bytes => (.status .ok, { fifosOf s with intent := rest, txWire := bytes }) :=
    if_neg hwire
  rw [hstep, Control.encodeIntentHeadToWire, if_neg hwire]
  rcases s.intent with _ | ⟨e, rest⟩
  · rfl
  · dsimp only
    cases encodeFrame e.fields maxBytes <;> rfl

theorem fifosOf_takeRx (hbound : s.state = .bound) (payloadCapacity : ℕ) :
    fifosOf (Control.takeRx s payloadCapacity).2.2 =
      ((fifosOf s).step (.take payloadCapacity)).2 := by
  have hstep : (fifosOf s).step (.take payloadCapacity) =
      match s.ingress with
      | [] => (.status .needMore, fifosOf s)
      | frame :: rest =>
        if payloadCapacity < frame.payload.length then (.status .invalidArgument, fifosOf s)
        else (.taken frame, { fifosOf s with ingress := rest }) := rfl
  rw [hstep, Control.takeRx, if_neg (by rw [hbound]; nofun), if_neg (not_not.2 hbound)]
  rcases s.ingress with _ | ⟨frame, rest⟩
  · rfl
  · dsimp only
    by_cases hc : payloadCapacity < frame.payload.length
    · rw [if_pos hc, if_pos hc]
    · rw [if_neg hc, if_neg hc]
      rfl

/-- **The queue functions of the session model are carried out by the pools.** -/
theorem session_refined (h : Refines p (fifosOf s)) :
    (∀ view : FrameView, view.payload.length = view.payloadLength →
        Refines (p.step (.frame (frameOf view))).2 (fifosOf (Control.ingressTryEnqueue s view))) ∧
      (∀ payloadCapacity, s.state = .bound →
        Refines (p.step (.take payloadCapacity)).2
          (fifosOf (Control.takeRx s payloadCapacity).2.2)) ∧
      (∀ fields token, fieldsAreGood fields = true →
        (Control.intentTryEnqueue s fields token = none ↔
            (p.step (.submit fields token)).1 = .refused) ∧
          ∀ s', Control.intentTryEnqueue s fields token = some s' →
            Refines (p.step (.submit fields token)).2 (fifosOf s')) ∧
      Refines (p.step .encode).2 (fifosOf (Control.encodeIntentHeadToWire s).2) ∧
      (∀ token, Refines (p.step (.cancel token)).2
        (fifosOf (Control.intentRemoveTrackedToken s token))) ∧
      Refines (p.step .discardIngress).2 (fifosOf (rxOnlyColdApply s)) ∧
      Refines (p.step .discardAll).2 (fifosOf (Control.discardQueues s)) := by
  refine ⟨fun view hlen => ?_, fun payloadCapacity hbound => ?_, fun fields token hgood => ?_, ?_,
    fun token => ?_, (refines_step h .discardIngress).2, (refines_step h .discardAll).2⟩
  · rw [fifosOf_ingressTryEnqueue h hlen]
    exact (refines_step h _).2
  · rw [fifosOf_takeRx hbound]
    exact (refines_step h _).2
  · obtain ⟨hanswer, hstep⟩ := refines_step h (.submit fields token)
    rw [hanswer, intentTryEnqueue_eq h hgood]
    by_cases href : ((fifosOf s).step (.submit fields token)).1 = .refused
    · rw [if_pos href]
      exact ⟨iff_of_true rfl href, nofun⟩
    · rw [if_neg href]
      refine ⟨iff_of_false nofun href, fun s' hs' => ?_⟩
      rw [← Option.some.inj hs']
      rw [fifosOf_submit]
      exact hstep
  · rw [fifosOf_encodeIntentHeadToWire]
    exact (refines_step h .encode).2
  · have hcancel : fifosOf (Control.intentRemoveTrackedToken s token) =
        ((fifosOf s).step (.cancel token)).2 := by
      simp only [Control.intentRemoveTrackedToken, Fifos.step, fifosOf]
      by_cases ht : token = 0
      · rw [if_pos ht, if_pos ht]
      · rw [if_neg ht, if_neg ht]
    rw [hcancel]
    exact (refines_step h _).2

/-- A frame with one byte. -/
def queuedFrame (x : UInt8) : FrameFields :=
  { type := 1, streamOrCellId := 0, sequence := 0, payload := [x] }

/-- Two frames off the parser and two intents, the first of which is tracked. -/
def queuedOps : List QueueOp :=
  [.frame (queuedFrame 1), .frame (queuedFrame 2), .submit (queuedFrame 3) 5,
    .submit (queuedFrame 4) 0]

/-- The session with these queues. -/
def queuedSession : Session where
  state := .bound
  ingress := [queuedFrame 1, queuedFrame 2]
  intent := [⟨queuedFrame 3, 5⟩, ⟨queuedFrame 4, 0⟩]

/-- A frame is taken from these queues, an intent submitted, the first one encoded, and cancelled. -/
theorem session_refined_queued :
    let p := (Pools.run {} queuedOps).2
    ((Control.takeRx queuedSession 1).2.2.ingress = [queuedFrame 2] ∧
      Refines (p.step (.take 1)).2 (fifosOf (Control.takeRx queuedSession 1).2.2)) ∧
    (∃ s', Control.intentTryEnqueue queuedSession (queuedFrame 6) 7 = some s' ∧
      s'.intent.length = 3 ∧ Refines (p.step (.submit (queuedFrame 6) 7)).2 (fifosOf s')) ∧
    ((Control.encodeIntentHeadToWire queuedSession).2.txWire = frameBytes (queuedFrame 3) ∧
      (Control.encodeIntentHeadToWire queuedSession).2.intent = [⟨queuedFrame 4, 0⟩] ∧
      Refines (p.step .encode).2 (fifosOf (Control.encodeIntentHeadToWire queuedSession).2)) ∧
    (Control.intentRemoveTrackedToken queuedSession 5).intent = [⟨queuedFrame 4, 0⟩] ∧
      Refines (p.step (.cancel 5)).2
        (fifosOf (Control.intentRemoveTrackedToken queuedSession 5)) := by
  intro p
  have hqueued : Refines p (fifosOf queuedSession) := (refines_run refines_init queuedOps).2
  obtain ⟨-, htake, hsubmit, hencode, hcancel, -⟩ := session_refined hqueued
  exact ⟨⟨rfl, htake 1 rfl⟩, ⟨_, rfl, rfl, (hsubmit (queuedFrame 6) 7 rfl).2 _ rfl⟩,
    ⟨rfl, rfl, hencode⟩, rfl, hcancel 5⟩

end Queues
end Ninlil.Control
