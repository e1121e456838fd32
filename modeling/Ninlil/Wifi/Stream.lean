import Ninlil.Lib.Framing
import Ninlil.Wifi.PacketCheck

/-!
# The receive stream

`wifi_stream.c`: records are put together from the chunks that a TLS stream happens to deliver.

* `RxStream`, `rxStreamFeed`: the reassembly buffer; a delivered record stays at its front until the
  next feed;
* `Tracks`: the buffer as the reader of a framed stream;
* `rxStreamFeed_tracks`: a feed of the next part of a stream of acceptable records is a feed of that
  reader;
* `rx_stream_chunking`: however a stream of acceptable records is cut, it delivers these records.
-/

namespace Ninlil.Wifi

open Bytes Framing

/-! ### The buffer -/

/-- `ninlil_wifi_rx_stream_t`: `buf` is the part of the buffer in use, the session and the expected
sequence number are there once they were set. -/
structure RxStream where
  buf : List UInt8 := []
  pendingRecordLen : ℕ := 0
  session : Option (Vector UInt8 16) := none
  expectedSequence : Option UInt32 := none

/-- `ninlil_wifi_rx_stream_init`. -/
def rxStreamInit : RxStream := {}

/-- `ninlil_wifi_rx_stream_set_session`. -/
def rxStreamSetSession (_s : RxStream) (session : Vector UInt8 16) (nextSequence : UInt32) :
    RxStream where
  buf := []
  pendingRecordLen := 0
  session := some session
  expectedSequence := some nextSequence

/-- A call of `ninlil_wifi_rx_stream_feed`: the chunk, and which of its pointers are null. -/
structure FeedCall where
  chunk : List UInt8
  streamNull : Bool := false
  chunkNull : Bool := false
  recordOutNull : Bool := false
  recordLenOutNull : Bool := false
  sequenceOutNull : Bool := false

/-- The arguments that a feed refuses. -/
def FeedCall.invalid (c : FeedCall) : Bool :=
  c.streamNull || (c.chunkNull && c.chunk.length != 0) || c.recordOutNull || c.recordLenOutNull

/-- A feed of no bytes. -/
def FeedCall.empty : FeedCall := { chunk := [] }

/-- What a feed returns; `record` and `sequence` are what it writes through its pointers. -/
structure FeedAnswer where
  status : WifiStatus
  record : Option (List UInt8) := none
  sequence : Option UInt32 := none

/-- The record delivered before is dropped. -/
def RxStream.dropDelivered (s : RxStream) : RxStream :=
  if 0 < s.pendingRecordLen then
    { s with
      buf := if s.pendingRecordLen < s.buf.length then s.buf.drop s.pendingRecordLen else []
      pendingRecordLen := 0 }
  else s

/-- New bytes are appended, unless there is no room for them. -/
def RxStream.receive (capacity : ℕ) (s : RxStream) (chunk : List UInt8) : Option RxStream :=
  if 0 < chunk.length then
    if capacity < s.buf.length ∨ capacity - s.buf.length < chunk.length then none
    else some { s with buf := s.buf ++ chunk }
  else some s

/-- The record at the front is delivered once it is whole. -/
def RxStream.deliver (s : RxStream) (c : FeedCall) : FeedAnswer × RxStream :=
  if s.buf.length < nwb1HeaderBytes then ({ status := .wouldBlock }, s)
  else
    let totalLength := getU32Be s.buf 8
    if totalLength < nwb1TotalMin ∨ nwb1TotalMax < totalLength then
      ({ status := .corrupt }, { s with buf := [] })
    else if s.buf.length < totalLength.toNat then ({ status := .wouldBlock }, s)
    else
      let record := s.buf.take totalLength.toNat
      match nwb1Classify record s.session s.expectedSequence with
      | .error status => ({ status }, { s with buf := [], pendingRecordLen := 0 })
      | .ok view =>
        ({ status := .ok, record, sequence := if c.sequenceOutNull then none else view.sequence },
          { s with
            pendingRecordLen := totalLength.toNat
            expectedSequence := s.expectedSequence.map fun _ => view.sequence + 1 })

/-- `ninlil_wifi_rx_stream_feed`, on a buffer of `capacity` bytes. -/
def rxStreamFeed (capacity : ℕ) (s : RxStream) (c : FeedCall) : FeedAnswer × RxStream :=
  if c.invalid then ({ status := .invalidArgument }, s)
  else
    let s := s.dropDelivered
    match s.receive capacity c.chunk with
    | none => ({ status := .capacity }, { s with buf := [], pendingRecordLen := 0 })
    | some s => s.deliver c

/-- One feed after the other. -/
def rxStreamFeeds (capacity : ℕ) (s : RxStream) : List FeedCall → List FeedAnswer × RxStream
  | [] => ([], s)
  | c :: calls =>
    let fed := rxStreamFeed capacity s c
    let rest := rxStreamFeeds capacity fed.2 calls
    (fed.1 :: rest.1, rest.2)

/-- The records that were delivered. -/
def delivered (answers : List FeedAnswer) : List (List UInt8) :=
  (answers.map FeedAnswer.record).reduceOption

/-! ### The stages of a feed -/

section Stages

variable {s : RxStream} {c : FeedCall} {capacity : ℕ}

/-- The bytes that are not delivered yet. -/
def RxStream.held (s : RxStream) : List UInt8 := s.buf.drop s.pendingRecordLen

theorem dropDelivered_eq (s : RxStream) :
    s.dropDelivered = { s with buf := s.held, pendingRecordLen := 0 } := by
  unfold RxStream.dropDelivered RxStream.held
  split_ifs with hpending hmore
  · rfl
  · rw [List.drop_eq_nil_of_le (not_lt.1 hmore)]
  · have hzero : s.pendingRecordLen = 0 := by omega
    rw [hzero, List.drop_zero, ← hzero]

/-- The chunk fits in what is free once the delivered record is dropped. -/
def Fits (capacity : ℕ) (s : RxStream) (c : FeedCall) : Prop :=
  c.chunk.length ≤ capacity - s.held.length

/-- A feed that is neither refused nor too long looks at the front of the bytes held. -/
theorem rxStreamFeed_eq (hvalid : c.invalid = false) (hfits : Fits capacity s c) :
    rxStreamFeed capacity s c =
      ({ s with buf := s.held ++ c.chunk, pendingRecordLen := 0 } : RxStream).deliver c := by
  unfold Fits at hfits
  unfold rxStreamFeed
  rw [if_neg (by rw [hvalid]; decide), dropDelivered_eq]
  unfold RxStream.receive
  dsimp only
  by_cases hempty : 0 < c.chunk.length
  · rw [if_pos hempty, if_neg (by omega)]
  · have hnil : c.chunk = [] := List.eq_nil_of_length_eq_zero (by omega)
    rw [if_neg hempty, hnil, List.append_nil]

end Stages

/-! ### Streams of acceptable records -/

/-- Records that a session accepts one after the other, from a sequence number on. -/
def AcceptedFrom (session : Vector UInt8 16) : UInt32 → List (List UInt8) → Prop
  | _, [] => True
  | q, record :: records =>
    (∃ view, nwb1Classify record (some session) (some q) = .ok view) ∧
      AcceptedFrom session (q + 1) records

theorem acceptedFrom_of_index {session : Vector UInt8 16} {q : UInt32} {records : List (List UInt8)}
    (h : ∀ i (hi : i < records.length), ∃ view,
      nwb1Classify records[i] (some session) (some (q + UInt32.ofNat i)) = .ok view) :
    AcceptedFrom session q records := by
  induction records generalizing q with
  | nil => trivial
  | cons record records ih =>
    refine ⟨?_, ih fun i hi => ?_⟩
    · have hfirst := h 0 (by simp)
      simpa using hfirst
    · have hnext := h (i + 1) (by simpa using hi)
      have hstep : q + UInt32.ofNat (i + 1) = q + 1 + UInt32.ofNat i := by
        rw [Nat.add_comm i 1, UInt32.ofNat_add, ← UInt32.add_assoc]
        rfl
      rw [hstep] at hnext
      exact hnext

/-- The buffer is the reader of a stream of acceptable records. -/
structure Tracks (id : Vector UInt8 16) (q : UInt32) (s : RxStream) (r : Framing.Reader UInt8) :
    Prop where
  session : s.session = some id
  expected : s.expectedSequence = some q
  held : s.held = r.held
  due : AcceptedFrom id q r.due

/-- The answer to a feed: the record it delivers, if any, and no error. -/
structure Answers (a : FeedAnswer) (f : Option (List UInt8)) : Prop where
  record : a.record = f
  status : a.status = if f = none then .wouldBlock else .ok

section Tracking

variable {id : Vector UInt8 16} {q : UInt32} {s : RxStream} {r : Framing.Reader UInt8}
  {c : FeedCall}
  {capacity : ℕ} {rest : List UInt8}

/-- A record names its length within the bytes that a reader waits for. -/
theorem total_of_header {bytes record : List UInt8}
    (hbegins : bytes.take nwb1HeaderBytes = record.take nwb1HeaderBytes) :
    getU32Be bytes 8 = getU32Be record 8 := by
  have hfield : slice bytes 8 4 = slice record 8 4 :=
    slice_congr hbegins (by unfold nwb1HeaderBytes; omega)
  unfold getU32Be
  rw [hfield]

/-- **A feed of the next part of the stream.** -/
theorem rxStreamFeed_tracks (h : Tracks id q s r) (hreads : r.Reads (c.chunk ++ rest))
    (hvalid : c.invalid = false) (hfits : Fits capacity s c) :
    (∃ q', Tracks id q' (rxStreamFeed capacity s c).2 (r.feed c.chunk).2) ∧
      Answers (rxStreamFeed capacity s c).1 (r.feed c.chunk).1 := by
  have htaken := hreads.take
  rw [rxStreamFeed_eq hvalid hfits, h.held]
  generalize hbytes : r.held ++ c.chunk = bytes at htaken
  have hwaits : Tracks id q { s with buf := bytes, pendingRecordLen := 0 }
      { r with held := bytes } := ⟨h.session, h.expected, rfl, h.due⟩
  unfold RxStream.deliver Reader.feed
  rw [hbytes]
  dsimp only
  cases hdue : r.due with
  | nil =>
    -- the stream is over, so that nothing can be held
    have hnil : bytes = [] := by
      unfold Reader.Reads at htaken
      rw [hdue] at htaken
      exact (List.append_eq_nil_iff.1 htaken).1
    rw [if_pos (by rw [hnil]; exact Nat.zero_lt_succ _)]
    rw [hdue] at hwaits
    exact ⟨⟨q, hwaits⟩, rfl, rfl⟩
  | cons record due =>
    rw [hdue] at hwaits
    have haccepted := h.due
    rw [hdue] at haccepted
    obtain ⟨⟨view, hview⟩, hlater⟩ := haccepted
    have hrecord := nwb1Classify_accepted hview
    have hheader := hrecord.header
    by_cases hshort : bytes.length < nwb1HeaderBytes
    · dsimp only
      rw [if_pos hshort, if_neg (by omega)]
      exact ⟨⟨q, hwaits⟩, rfl, rfl⟩
    · have htotal := total_of_header
        (htaken.begins hdue (not_lt.1 hshort) hheader)
      have hbounds : ¬ (getU32Be record 8 < nwb1TotalMin ∨ nwb1TotalMax < getU32Be record 8) := by
        have hmost := hrecord.most
        rw [not_or, UInt32.not_lt, UInt32.not_lt, UInt32.le_iff_toNat_le (a := getU32Be record 8),
          hrecord.toNat_total]
        exact ⟨hrecord.least, hmost⟩
      dsimp only
      rw [if_neg hshort, htotal, if_neg hbounds, hrecord.toNat_total]
      by_cases hwhole : record.length ≤ bytes.length
      · rw [if_neg (not_lt.2 hwhole), if_pos hwhole, htaken.front hdue hwhole,
          h.session, h.expected,
          hview]
        have hseq : view.sequence = q := hrecord.expected q rfl
        refine ⟨⟨q + 1, ?_⟩, rfl, rfl⟩
        exact ⟨rfl, congrArg (fun v => some (v + 1)) hseq, rfl, hlater⟩
      · rw [if_pos (not_le.1 hwhole), if_neg hwhole]
        exact ⟨⟨q, hwaits⟩, rfl, rfl⟩

/-! ### Runs over a stream of acceptable records -/

/-- Every chunk fits in what is free when it is fed. -/
def FeedsFit (capacity : ℕ) : RxStream → List FeedCall → Prop
  | _, [] => True
  | s, c :: calls => Fits capacity s c ∧ FeedsFit capacity (rxStreamFeed capacity s c).2 calls

theorem feeds_tracks {calls : List FeedCall} (h : Tracks id q s r)
    (hreads : r.Reads ((calls.map FeedCall.chunk).flatten ++ rest))
    (hvalid : ∀ c ∈ calls, c.invalid = false) (hfits : FeedsFit capacity s calls) :
    (∃ q', Tracks id q' (rxStreamFeeds capacity s calls).2
      (r.feedAll (calls.map FeedCall.chunk)).2) ∧
      List.Forall₂ Answers (rxStreamFeeds capacity s calls).1
        (r.feedAll (calls.map FeedCall.chunk)).1 := by
  induction calls generalizing q s r with
  | nil => exact ⟨⟨q, h⟩, .nil⟩
  | cons c calls ih =>
    rw [List.map_cons, List.flatten_cons, List.append_assoc] at hreads
    obtain ⟨⟨q', htracks⟩, hanswer⟩ :=
      rxStreamFeed_tracks h hreads (hvalid c List.mem_cons_self) hfits.1
    obtain ⟨hlast, hanswers⟩ :=
      ih htracks hreads.feed (fun d hd => hvalid d (List.mem_cons_of_mem _ hd)) hfits.2
    exact ⟨hlast, .cons hanswer hanswers⟩

theorem Answers.quiet {a : FeedAnswer} {f : Option (List UInt8)} (h : Answers a f) :
    a.status = .ok ∨ a.status = .wouldBlock := by
  rw [h.status]
  split_ifs
  · exact .inr rfl
  · exact .inl rfl

theorem answer_of_mem {answers : List FeedAnswer} {frames : List (Option (List UInt8))}
    (h : List.Forall₂ Answers answers frames) {a : FeedAnswer} (ha : a ∈ answers) :
    ∃ f ∈ frames, Answers a f := by
  induction h with
  | nil => exact absurd ha (by simp)
  | cons hfirst _ ih =>
    rcases List.mem_cons.1 ha with rfl | ha
    · exact ⟨_, List.mem_cons_self, hfirst⟩
    · obtain ⟨f, hf, hanswer⟩ := ih ha
      exact ⟨f, List.mem_cons_of_mem _ hf, hanswer⟩

theorem delivered_of_answers {answers : List FeedAnswer} {frames : List (Option (List UInt8))}
    (h : List.Forall₂ Answers answers frames) : delivered answers = frames.reduceOption := by
  have hmap : answers.map FeedAnswer.record = frames := by
    induction h with
    | nil => rfl
    | cons ha _ ih => rw [List.map_cons, ha.record, ih]
  rw [delivered, hmap]

theorem held_deliver_le (s : RxStream) (c : FeedCall) :
    (s.deliver c).2.held.length ≤ s.buf.length := by
  have hheld : ∀ t : RxStream, t.held.length ≤ t.buf.length := fun t => by
    rw [RxStream.held, List.length_drop]
    exact Nat.sub_le ..
  unfold RxStream.deliver
  dsimp only
  split_ifs
  · exact hheld s
  · exact (hheld _).trans (Nat.zero_le _)
  · exact hheld s
  all_goals
    split
    · exact (hheld _).trans (Nat.zero_le _)
    · exact hheld _

theorem held_feed_le (s : RxStream) (c : FeedCall) :
    (rxStreamFeed capacity s c).2.held.length ≤ s.held.length + c.chunk.length := by
  unfold rxStreamFeed
  split_ifs
  · exact Nat.le_add_right ..
  · rw [dropDelivered_eq]
    unfold RxStream.receive
    dsimp only
    split_ifs
    · exact Nat.zero_le _
    · exact (held_deliver_le _ c).trans (List.length_append ..).le
    · exact (held_deliver_le _ c).trans (Nat.le_add_right ..)

/-- Chunks that fit together fit one by one. -/
theorem feedsFit_of_length {calls : List FeedCall}
    (h : s.held.length + (calls.map fun c => c.chunk.length).sum ≤ capacity) :
    FeedsFit capacity s calls := by
  induction calls generalizing s with
  | nil => trivial
  | cons c calls ih =>
    rw [List.map_cons, List.sum_cons] at h
    have hheld := @held_feed_le capacity s c
    refine ⟨?_, ih (by omega)⟩
    unfold Fits
    omega

/-- A feed of nothing always fits. -/
theorem feedsFit_empty (m : ℕ) (s : RxStream) : FeedsFit capacity s (List.replicate m .empty) := by
  induction m generalizing s with
  | zero => trivial
  | succ m ih => exact ⟨Nat.zero_le _, ih _⟩

/-- After some feeds, and then feeds of nothing until one would block, certain records were
delivered, in order and each once. -/
structure Delivers (capacity : ℕ) (s : RxStream) (calls : List FeedCall)
    (records : List (List UInt8)) : Prop where
  /-- No feed returns an error. -/
  quiet : ∀ a ∈ (rxStreamFeeds capacity s calls).1, a.status = .ok ∨ a.status = .wouldBlock
  /-- Feeds of nothing go on delivering until there is nothing left to deliver. -/
  drains : ∃ m,
    let fed := rxStreamFeeds capacity s calls
    let drained := rxStreamFeeds capacity fed.2 (List.replicate m .empty)
    (∀ a ∈ drained.1, a.status = .ok) ∧
      (rxStreamFeed capacity drained.2 .empty).1.status = .wouldBlock ∧
      delivered fed.1 ++ delivered drained.1 = records

/-- **However the stream is cut**, the records that are whole are delivered. -/
theorem Tracks.delivers {calls : List FeedCall} {records : List (List UInt8)}
    (h : Tracks id q s ⟨[], records⟩)
    (hreads : (calls.map FeedCall.chunk).flatten ++ rest = records.flatten)
    (hvalid : ∀ c ∈ calls, c.invalid = false) (hfits : FeedsFit capacity s calls) :
    Delivers capacity s calls (complete (calls.map FeedCall.chunk).flatten.length records) := by
  obtain ⟨⟨q', htracks⟩, hanswers⟩ := feeds_tracks h hreads hvalid hfits
  have hlater := Reader.Reads.feedAll (r := ⟨[], records⟩) hreads
  have hcomplete := Reader.feedAll_complete ⟨[], records⟩ (calls.map FeedCall.chunk)
  obtain ⟨m, hsome, hdrain, hnone⟩ :=
    ((⟨[], records⟩ : Framing.Reader UInt8).feedAll (calls.map FeedCall.chunk)).2.drain
  have hempty : (List.replicate m FeedCall.empty).map FeedCall.chunk = List.replicate m [] :=
    List.map_replicate
  have hnothing : (List.replicate m ([] : List UInt8)).flatten = [] := by simp
  have hempties : ∀ c ∈ List.replicate m FeedCall.empty, c.invalid = false := by
    intro c hc
    rw [List.eq_of_mem_replicate hc]
    rfl
  have hroom : FeedsFit capacity (rxStreamFeeds capacity s calls).2 (List.replicate m .empty) :=
    feedsFit_empty m _
  obtain ⟨⟨q'', htracks'⟩, hanswers'⟩ :=
    feeds_tracks htracks (by rw [hempty, hnothing]; exact hlater) hempties hroom
  rw [hempty] at htracks' hanswers'
  have hfits' : Fits capacity
      (rxStreamFeeds capacity (rxStreamFeeds capacity s calls).2 (List.replicate m .empty)).2
      .empty := Nat.zero_le _
  have hnext : Reader.Reads _ (FeedCall.empty.chunk ++ rest) := hlater.drained m
  have hstuck := (rxStreamFeed_tracks htracks' hnext rfl hfits').2
  refine ⟨?_, m, ?_, ?_, ?_⟩
  · intro a ha
    obtain ⟨f, -, hanswer⟩ := answer_of_mem hanswers ha
    exact hanswer.quiet
  · intro a ha
    obtain ⟨f, hf, hanswer⟩ := answer_of_mem hanswers' ha
    rw [hanswer.status, if_neg (hsome f hf)]
  · rw [hstuck.status]
    exact if_pos hnone
  · rw [delivered_of_answers hanswers, delivered_of_answers hanswers', hdrain]
    exact hcomplete.symm.trans (congrArg (complete · records) (Nat.zero_add _))

end Tracking

/-! ### Any bytes -/

section AnyBytes

variable {id : Vector UInt8 16} {q : UInt32} {s : RxStream}

/-- The stream belongs to a session and waits for a sequence number. -/
structure Expects (id : Vector UInt8 16) (q : UInt32) (s : RxStream) : Prop where
  session : s.session = some id
  expected : s.expectedSequence = some q

/-- A status that ends a stream. -/
def WifiStatus.isError : WifiStatus → Bool
  | .ok | .wouldBlock | .invalidArgument => false
  | _ => true

/-- What a feed of any bytes does. -/
inductive Fed (id : Vector UInt8 16) (q : UInt32) (c : FeedCall) : FeedAnswer × RxStream → Prop
  /-- Nothing is delivered. -/
  | waits {status : WifiStatus} {s : RxStream} (kept : status.isError = false)
      (expects : Expects id q s) : Fed id q c ({ status }, s)
  /-- The buffer is emptied. -/
  | fails {status : WifiStatus} {s : RxStream} (expects : Expects id q s) (empty : s.buf = []) :
      Fed id q c ({ status }, s)
  /-- The next record of the session is delivered. -/
  | delivers {record : List UInt8} {view : Nwb1View} {s : RxStream}
      (accepted : nwb1Classify record (some id) (some q) = .ok view)
      (expects : Expects id (q + 1) s) :
      Fed id q c
        ({ status := .ok, record, sequence := if c.sequenceOutNull then none else some q }, s)

theorem Expects.deliver (h : Expects id q s) (c : FeedCall) : Fed id q c (s.deliver c) := by
  unfold RxStream.deliver
  dsimp only
  by_cases hshort : s.buf.length < nwb1HeaderBytes
  · rw [if_pos hshort]
    exact .waits rfl h
  rw [if_neg hshort]
  by_cases hbounds : getU32Be s.buf 8 < nwb1TotalMin ∨ nwb1TotalMax < getU32Be s.buf 8
  · rw [if_pos hbounds]
    exact .fails ⟨h.session, h.expected⟩ rfl
  rw [if_neg hbounds]
  by_cases hpart : s.buf.length < (getU32Be s.buf 8).toNat
  · rw [if_pos hpart]
    exact .waits rfl h
  rw [if_neg hpart, h.session, h.expected]
  split
  · exact .fails ⟨rfl, rfl⟩ rfl
  · rename_i view hview
    have hseq : view.sequence = q := (nwb1Classify_accepted hview).expected q rfl
    rw [hseq]
    exact .delivers hview ⟨rfl, rfl⟩

theorem Expects.feed (h : Expects id q s) (capacity : ℕ) (c : FeedCall) :
    Fed id q c (rxStreamFeed capacity s c) := by
  unfold rxStreamFeed
  split_ifs
  · exact .waits rfl h
  · rw [dropDelivered_eq]
    unfold RxStream.receive
    dsimp only
    split_ifs
    · exact .fails ⟨h.session, h.expected⟩ rfl
    · refine Expects.deliver ?_ c
      exact ⟨h.session, h.expected⟩
    · refine Expects.deliver ?_ c
      exact ⟨h.session, h.expected⟩

/-- Records with consecutive sequence numbers, none of them the reserved one. -/
def Consecutive (id : Vector UInt8 16) (q : UInt32) (records : List (List UInt8)) : Prop :=
  ∀ i (h : i < records.length), ∃ view,
    nwb1Classify records[i] (some id) (some (q + UInt32.ofNat i)) = .ok view ∧
      view.sequence.toNat = q.toNat + i

theorem Consecutive.cons {record : List UInt8} {records : List (List UInt8)} {view : Nwb1View}
    (h : Consecutive id (q + 1) records)
    (haccepted : nwb1Classify record (some id) (some q) = .ok view) :
    Consecutive id q (record :: records) := by
  have hrecord := nwb1Classify_accepted haccepted
  have hseq : view.sequence = q := hrecord.expected q rfl
  have hnext : (q + 1).toNat = q.toNat + 1 := by
    have husable : q.toNat ≠ 2 ^ 32 - 1 := fun hmax =>
      hrecord.usable (hseq.trans (UInt32.toNat_inj.1 hmax))
    have hlt := q.toNat_lt
    rw [UInt32.toNat_add]
    show (q.toNat + 1) % 2 ^ 32 = _
    omega
  intro i hi
  cases i with
  | zero => exact ⟨view, by simpa using haccepted, by rw [hseq]; rfl⟩
  | succ i =>
    obtain ⟨view', haccepted', hseq'⟩ := h i (by simpa using hi)
    have hstep : q + UInt32.ofNat (i + 1) = q + 1 + UInt32.ofNat i := by
      rw [Nat.add_comm i 1, UInt32.ofNat_add, ← UInt32.add_assoc]
      rfl
    rw [hstep]
    exact ⟨view', haccepted', by rw [hseq', hnext]; omega⟩

/-- The sequence numbers that feeds write: that of each record delivered, unless its pointer is
null, and no other. -/
def Told : UInt32 → List FeedCall → List FeedAnswer → Prop
  | _, [], answers => answers = []
  | _, _ :: _, [] => False
  | q, c :: calls, a :: answers =>
    if a.record = none then a.sequence = none ∧ Told q calls answers
    else a.sequence = (if c.sequenceOutNull then none else some q) ∧ Told (q + 1) calls answers

/-- What a run of any feeds delivers and writes, and what it waits for after it. -/
theorem Expects.feeds (h : Expects id q s) (capacity : ℕ) (calls : List FeedCall) :
    Consecutive id q (delivered (rxStreamFeeds capacity s calls).1) ∧
      Told q calls (rxStreamFeeds capacity s calls).1 ∧
      ∃ q', Expects id q' (rxStreamFeeds capacity s calls).2 := by
  induction calls generalizing q s with
  | nil => exact ⟨fun i hi => absurd hi (by simp [delivered, rxStreamFeeds]), rfl, q, h⟩
  | cons c calls ih =>
    have hfed := h.feed capacity c
    unfold rxStreamFeeds
    dsimp only
    generalize rxStreamFeed capacity s c = fed at hfed
    cases hfed with
    | waits _ expects | fails expects =>
      obtain ⟨hlater, htold, hlast⟩ := ih expects
      refine ⟨hlater, ?_, hlast⟩
      rw [Told, if_pos rfl]
      exact ⟨rfl, htold⟩
    | delivers accepted expects =>
      obtain ⟨hlater, htold, hlast⟩ := ih expects
      refine ⟨hlater.cons accepted, ?_, hlast⟩
      rw [Told, if_neg (Option.some_ne_none _)]
      exact ⟨rfl, htold⟩

end AnyBytes

/-! ### The contract -/

/-- What the receive stream of a session guarantees. -/
structure Reassembles (capacity : ℕ) (id : Vector UInt8 16) (n : UInt32) (s : RxStream) : Prop where
  /-- Fed a beginning of acceptable records in chunks that fit, it delivers those that are whole. -/
  whole : ∀ (records : List (List UInt8)) (calls : List FeedCall),
    (∀ i (h : i < records.length), ∃ view,
      nwb1Classify records[i] (some id) (some (n + UInt32.ofNat i)) = .ok view) →
    (calls.map FeedCall.chunk).flatten <+: records.flatten →
    (∀ c ∈ calls, c.invalid = false) → FeedsFit capacity s calls →
      Delivers capacity s calls (complete (calls.map FeedCall.chunk).flatten.length records)
  /-- Fed all of them, it delivers them all. -/
  all : ∀ (records : List (List UInt8)) (calls : List FeedCall),
    (∀ i (h : i < records.length), ∃ view,
      nwb1Classify records[i] (some id) (some (n + UInt32.ofNat i)) = .ok view) →
    (calls.map FeedCall.chunk).flatten = records.flatten →
    (∀ c ∈ calls, c.invalid = false) → FeedsFit capacity s calls →
      Delivers capacity s calls records
  /-- Fed anything, it delivers acceptable records with consecutive sequence numbers. -/
  consecutive : ∀ calls, Consecutive id n (delivered (rxStreamFeeds capacity s calls).1)
  /-- Each record delivered comes with its sequence number. -/
  told : ∀ calls, Told n calls (rxStreamFeeds capacity s calls).1
  /-- An error empties the buffer and leaves the expected sequence number alone. -/
  errors : ∀ calls c,
    let fed := (rxStreamFeeds capacity s calls).2
    (rxStreamFeed capacity fed c).1.status.isError = true →
      (rxStreamFeed capacity fed c).2.buf = [] ∧
        (rxStreamFeed capacity fed c).2.expectedSequence = fed.expectedSequence

/-- **The stream does not depend on its chunks.** From any stream whose session was set: however a
sequence of acceptable records is cut into chunks that fit, with feeds of nothing in between or at
the end, they are delivered, in order, each once and byte for byte. Whatever is fed, only acceptable
records are delivered, under consecutive sequence numbers. -/
theorem rx_stream_chunking (capacity : ℕ) (id : Vector UInt8 16) (n : UInt32) (s : RxStream) :
    Reassembles capacity id n (rxStreamSetSession s id n) := by
  have hexpects : Expects id n (rxStreamSetSession s id n) := ⟨rfl, rfl⟩
  have hwhole : ∀ (records : List (List UInt8)) (calls : List FeedCall),
      (∀ i (h : i < records.length), ∃ view,
        nwb1Classify records[i] (some id) (some (n + UInt32.ofNat i)) = .ok view) →
      (calls.map FeedCall.chunk).flatten <+: records.flatten →
      (∀ c ∈ calls, c.invalid = false) → FeedsFit capacity (rxStreamSetSession s id n) calls →
        Delivers capacity (rxStreamSetSession s id n) calls
          (complete (calls.map FeedCall.chunk).flatten.length records) := by
    rintro records calls haccepted ⟨rest, hrest⟩ hvalid hfits
    have htracks : Tracks id n (rxStreamSetSession s id n) ⟨[], records⟩ :=
      ⟨rfl, rfl, rfl, acceptedFrom_of_index haccepted⟩
    exact htracks.delivers hrest hvalid hfits
  refine ⟨hwhole, ?_, fun calls => (hexpects.feeds capacity calls).1,
    fun calls => (hexpects.feeds capacity calls).2.1, ?_⟩
  · intro records calls haccepted heq hvalid hfits
    have hall := hwhole records calls haccepted (heq ▸ List.prefix_rfl) hvalid hfits
    rwa [heq, complete_all le_rfl] at hall
  · intro calls c fed herror
    obtain ⟨-, -, q, hq⟩ := hexpects.feeds capacity calls
    have hfed := hq.feed capacity c
    have hexpected := hq.expected
    generalize rxStreamFeed capacity _ c = answer at hfed herror ⊢
    cases hfed with
    | waits kept => exact absurd (herror.symm.trans kept) (by decide)
    | fails expects empty => exact ⟨empty, expects.expected.trans hexpected.symm⟩
    | delivers => exact absurd herror Bool.false_ne_true

/-- A record, wherever it is cut in two. -/
theorem rx_stream_chunking_sample : ∃ record,
    nwb1Encode (Vector.replicate 16 1) 7 samplePacket 632 = .ok record ∧
      ∀ cut, Delivers 2048 (rxStreamSetSession rxStreamInit (Vector.replicate 16 1) 7)
        [{ chunk := record.take cut }, { chunk := record.drop cut }] [record] := by
  obtain ⟨record, hrecord⟩ := nwb1Encode_sample
  have haccepted := nwb1Classify_encode hrecord
  have hmost := (nwb1Classify_accepted haccepted).most
  refine ⟨record, hrecord, fun cut => (rx_stream_chunking 2048 (Vector.replicate 16 1) 7
    rxStreamInit).all [record] _ (fun i hi => ?_) ?_ ?_ (feedsFit_of_length ?_)⟩
  · have hzero : i = 0 := Nat.lt_one_iff.1 hi
    subst hzero
    exact ⟨_, haccepted⟩
  · simp
  · simp [FeedCall.invalid]
  · have hcut : (record.take cut).length + (record.drop cut).length = record.length := by
      rw [← List.length_append, List.take_append_drop]
    simp only [List.map_cons, List.map_nil, List.sum_cons, List.sum_nil]
    change 0 + ((record.take cut).length + ((record.drop cut).length + 0)) ≤ 2048
    have htotal : (nwb1TotalMax).toNat ≤ 2048 := by decide
    omega

end Ninlil.Wifi
