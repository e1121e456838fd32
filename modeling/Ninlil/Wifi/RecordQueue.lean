import Ninlil.Lib.Compact
import Ninlil.Lib.Layout

/-!
# The queue of records to be sent

`wifi_queues.c`: a ring of eight slots, from which the records of one sequence number can be
dropped in place.

* `RecordQueue`, `queuePush`, `queuePeek`, `queuePop`, `queueDropSequence`: the ring;
* `Fifo`, `Fifo.after`: what it is for, a list of records with a bound;
* `RecordQueue.Good`, `RecordQueue.records`: the ring is in order, and holds a list.
-/

namespace Ninlil.Wifi

open Bytes Ninlil.Compact

/-! ### The ring -/

/-- `NINLIL_WIFI_TX_QUEUE_DEPTH`. -/
def txQueueDepth : ℕ := 8

/-- `NINLIL_WIFI_NWB1_TOTAL_MAX`, the bytes of a slot. -/
def recordMax : ℕ := 1965

/-- `ninlil_wifi_record_slot_t`. -/
structure RecordSlot where
  bytes : List UInt8
  length : ℕ
  inUse : Bool

def RecordSlot.zero : RecordSlot := ⟨List.replicate recordMax 0, 0, false⟩

/-- What freeing a slot does to it. -/
def RecordSlot.clear (slot : RecordSlot) : RecordSlot := { slot with length := 0, inUse := false }

/-- `ninlil_wifi_record_queue_t`. -/
structure RecordQueue where
  slots : List RecordSlot
  head : ℕ
  tail : ℕ
  count : ℕ

/-- The statuses of the queue. -/
inductive QueueStatus
  | ok
  | invalidArgument
  | backpressure
  | wouldBlock
  deriving DecidableEq

/-- `ninlil_wifi_queue_init`. -/
def queueInit : RecordQueue := ⟨List.replicate txQueueDepth .zero, 0, 0, 0⟩

def RecordQueue.slot (q : RecordQueue) (i : ℕ) : RecordSlot := q.slots.getD i .zero

/-- `ninlil_wifi_queue_push`. -/
def queuePush (q : RecordQueue) (record : List UInt8) : QueueStatus × RecordQueue :=
  if record.length = 0 ∨ recordMax < record.length then (.invalidArgument, q)
  else if txQueueDepth ≤ q.count then (.backpressure, q)
  else
    let slot : RecordSlot := ⟨store (q.slot q.tail).bytes 0 record, record.length, true⟩
    (.ok, { q with
      slots := q.slots.set q.tail slot
      tail := (q.tail + 1) % txQueueDepth
      count := q.count + 1 })

/-- `ninlil_wifi_queue_peek`: the record, or `WOULD_BLOCK`. -/
def queuePeek (q : RecordQueue) : Option (List UInt8) :=
  if q.count = 0 then none else some ((q.slot q.head).bytes.take (q.slot q.head).length)

/-- `ninlil_wifi_queue_pop`. -/
def queuePop (q : RecordQueue) : QueueStatus × RecordQueue :=
  if q.count = 0 then (.wouldBlock, q)
  else (.ok, { q with
    slots := q.slots.set q.head (q.slot q.head).clear
    head := (q.head + 1) % txQueueDepth
    count := q.count - 1 })

/-- `nwb1_seq_be`. -/
def nwb1SeqBe (bytes : List UInt8) (length : ℕ) : UInt32 :=
  if length < 36 then 0xffffffff else getU32Be bytes 32

/-- The first loop of `ninlil_wifi_queue_drop_sequence`: the slots, how many records were removed,
and the slots of those that are kept. -/
structure Scan where
  slots : List RecordSlot
  removed : ℕ
  keepSrc : List ℕ

/-- One iteration of it. -/
def scanStep (head : ℕ) (sequence : UInt32) (s : Scan) (i : ℕ) : Scan :=
  let src := (head + i) % txQueueDepth
  let slot := s.slots.getD src .zero
  if slot.inUse = false then s
  else if nwb1SeqBe slot.bytes slot.length = sequence then
    { s with slots := s.slots.set src slot.clear, removed := s.removed + 1 }
  else { s with keepSrc := s.keepSrc ++ [src] }

/-- `ninlil_wifi_queue_drop_sequence`. -/
def queueDropSequence (q : RecordQueue) (sequence : UInt32) : ℕ × RecordQueue :=
  if q.count = 0 then (0, q)
  else
    let scan := (List.range q.count).foldl (scanStep q.head sequence) ⟨q.slots, 0, []⟩
    let nKeep := scan.keepSrc.length
    let moved := (compact .zero RecordSlot.inUse RecordSlot.clear nKeep
      (scan.keepSrc, scan.slots)).2
    let cleared := (List.range' nKeep (txQueueDepth - nKeep)).foldl
      (fun slots i => slots.set i (slots.getD i .zero).clear) moved
    (scan.removed, ⟨cleared, 0, if nKeep = txQueueDepth then 0 else nKeep, nKeep⟩)

/-! ### What it is for -/

/-- The records that wait, the oldest first. -/
abbrev Fifo := List (List UInt8)

/-- The sequence number of a record. -/
def recordSequence (record : List UInt8) : UInt32 := nwb1SeqBe record record.length

/-- The calls. -/
inductive QueueCall
  | push (record : List UInt8)
  | peek
  | pop
  | dropSequence (sequence : UInt32)

/-- What a call answers. -/
inductive QueueAnswer
  | status (status : QueueStatus)
  | record (record : List UInt8)
  | removed (n : ℕ)
  deriving DecidableEq

/-- A call of the list: its answer, and the list after it. -/
def Fifo.after (records : Fifo) : QueueCall → QueueAnswer × Fifo
  | .push record =>
    if record.length = 0 ∨ recordMax < record.length then (.status .invalidArgument, records)
    else if records.length = txQueueDepth then (.status .backpressure, records)
    else (.status .ok, records ++ [record])
  | .peek =>
    match records with
    | [] => (.status .wouldBlock, records)
    | record :: _ => (.record record, records)
  | .pop =>
    match records with
    | [] => (.status .wouldBlock, records)
    | _ :: rest => (.status .ok, rest)
  | .dropSequence sequence =>
    (.removed (records.countP fun r => recordSequence r == sequence),
      records.filter fun r => recordSequence r != sequence)

/-- A call of the ring. -/
def RecordQueue.after (q : RecordQueue) : QueueCall → QueueAnswer × RecordQueue
  | .push record => ((.status (queuePush q record).1), (queuePush q record).2)
  | .peek => ((queuePeek q).elim (.status .wouldBlock) .record, q)
  | .pop => (.status (queuePop q).1, (queuePop q).2)
  | .dropSequence sequence =>
    (.removed (queueDropSequence q sequence).1, (queueDropSequence q sequence).2)

/-- A run: the answers of some calls, and what they leave. -/
def run {σ : Type} (after : σ → QueueCall → QueueAnswer × σ) (s : σ) (calls : List QueueCall) :
    List QueueAnswer × σ :=
  calls.foldl (fun r call => (r.1 ++ [(after r.2 call).1], (after r.2 call).2)) ([], s)

/-! ### The ring in order -/

/-- A slot that holds a record. -/
structure RecordSlot.Full (slot : RecordSlot) : Prop where
  inUse : slot.inUse = true
  length : 0 < slot.length ∧ slot.length ≤ recordMax

/-- The slot of the record that is `i` places behind the oldest one. -/
def RecordQueue.place (q : RecordQueue) (i : ℕ) : ℕ := (q.head + i) % txQueueDepth

def RecordSlot.record (slot : RecordSlot) : List UInt8 := slot.bytes.take slot.length

/-- The list that a ring holds. -/
def RecordQueue.records (q : RecordQueue) : Fifo :=
  (List.range q.count).map fun i => (q.slot (q.place i)).record

/-- A ring in order: its counters fit, and the slots from the head on are full. -/
structure RecordQueue.Good (q : RecordQueue) : Prop where
  depth : q.slots.length = txQueueDepth
  bytes : ∀ i < txQueueDepth, (q.slot i).bytes.length = recordMax
  head : q.head < txQueueDepth
  count : q.count ≤ txQueueDepth
  tail : q.tail = q.place q.count
  full : ∀ i < q.count, (q.slot (q.place i)).Full

section Ring

variable {q : RecordQueue} {i j n : ℕ}

theorem place_lt (q : RecordQueue) (i : ℕ) : q.place i < txQueueDepth :=
  Nat.mod_lt _ (by decide)

/-- Different records have different slots. -/
theorem place_inj (hi : i < txQueueDepth) (hj : j < txQueueDepth) (h : q.place i = q.place j) :
    i = j := by
  unfold RecordQueue.place txQueueDepth at *
  omega

theorem length_records (q : RecordQueue) : q.records.length = q.count := by
  simp [RecordQueue.records]

theorem RecordQueue.Good.length_record (h : q.Good) (hi : i < q.count) :
    (q.slot (q.place i)).record.length = (q.slot (q.place i)).length := by
  have hfull := (h.full i hi).length.2
  unfold RecordSlot.record
  rw [List.length_take, h.bytes _ (place_lt q i), min_eq_left hfull]

/-- The sequence number that is read in a slot is that of its record. -/
theorem RecordQueue.Good.sequence (h : q.Good) (hi : i < q.count) :
    nwb1SeqBe (q.slot (q.place i)).bytes (q.slot (q.place i)).length =
      recordSequence (q.slot (q.place i)).record := by
  have hlength := h.length_record hi
  unfold recordSequence nwb1SeqBe
  rw [hlength]
  split_ifs with hshort
  · rfl
  · unfold getU32Be RecordSlot.record
    rw [slice_take (by omega)]

theorem good_queueInit : queueInit.Good := by
  have hslot : ∀ i < txQueueDepth, queueInit.slot i = .zero := by
    intro i hi
    simp [RecordQueue.slot, queueInit, hi]
  refine ⟨List.length_replicate, fun i hi => ?_, by decide, by decide, by decide,
    fun i hi => absurd hi (Nat.not_lt_zero i)⟩
  rw [hslot i hi]
  exact List.length_replicate

/-- A slot of the ring with another one set. -/
theorem slot_set {slot : RecordSlot} (hj : j < q.slots.length) (i : ℕ) :
    RecordQueue.slot { q with slots := q.slots.set j slot } i =
      if i = j then slot else q.slot i := by
  unfold RecordQueue.slot
  split_ifs with h
  · subst h
    exact getD_set_self hj slot
  · exact getD_set_ne (Ne.symm h) slot

end Ring

/-! ### Adding and removing -/

section Calls

variable {q : RecordQueue} {record : List UInt8}

/-- **A push appends.** -/
theorem push_refines (h : q.Good) (record : List UInt8) :
    (queuePush q record).2.Good ∧
      Fifo.after q.records (.push record) =
        (.status (queuePush q record).1, (queuePush q record).2.records) := by
  unfold queuePush Fifo.after
  dsimp only
  rw [length_records]
  by_cases hbounds : record.length = 0 ∨ recordMax < record.length
  · rw [if_pos hbounds, if_pos hbounds]
    exact ⟨h, rfl⟩
  rw [if_neg hbounds, if_neg hbounds]
  by_cases hfull : txQueueDepth ≤ q.count
  · rw [if_pos hfull, if_pos (Nat.le_antisymm h.count hfull)]
    exact ⟨h, rfl⟩
  rw [if_neg hfull, if_neg (fun heq => hfull (Nat.le_of_eq heq.symm))]
  have hroom : q.count < txQueueDepth := Nat.lt_of_not_le hfull
  have htail : q.tail < q.slots.length := by
    rw [h.tail, h.depth]
    exact place_lt q q.count
  have hbytes : (store (q.slot q.tail).bytes 0 record).length = recordMax := by
    rw [length_store, h.tail]
    exact h.bytes _ (place_lt q q.count)
  have hrecord : (store (q.slot q.tail).bytes 0 record).take record.length = record := by
    have hslice := @slice_store_self (q.slot q.tail).bytes record 0 record.length rfl (by
      rw [← @length_store (q.slot q.tail).bytes record 0, hbytes]
      omega)
    exact hslice
  generalize hnew : RecordSlot.mk (store (q.slot q.tail).bytes 0 record) record.length true = slot
  have hslot : ∀ i, RecordQueue.slot { q with
      slots := q.slots.set q.tail slot
      tail := (q.tail + 1) % txQueueDepth
      count := q.count + 1 } i = if i = q.tail then slot else q.slot i := slot_set htail
  have hfilled : slot.Full ∧ slot.record = record ∧ slot.bytes.length = recordMax := by
    rw [← hnew]
    have hlength : 0 < record.length ∧ record.length ≤ recordMax := by omega
    exact ⟨⟨rfl, hlength⟩, hrecord, hbytes⟩
  have hother : ∀ i < q.count, q.place i ≠ q.tail := by
    intro i hi heq
    rw [h.tail] at heq
    exact Nat.ne_of_lt hi (place_inj (by omega) hroom heq)
  refine ⟨⟨?_, ?_, h.head, hroom, ?_, ?_⟩, ?_⟩
  · rw [List.length_set, h.depth]
  · intro i hi
    rw [hslot]
    split_ifs
    · exact hfilled.2.2
    · exact h.bytes i hi
  · have htail' := h.tail
    unfold RecordQueue.place txQueueDepth at *
    show (q.tail + 1) % 8 = (q.head + (q.count + 1)) % 8
    omega
  · intro i hi
    show RecordSlot.Full (RecordQueue.slot _ (q.place i))
    rw [hslot]
    have hi' : i < q.count + 1 := hi
    rcases Nat.lt_succ_iff_lt_or_eq.1 hi' with hlt | rfl
    · rw [if_neg (hother i hlt)]
      exact h.full i hlt
    · rw [if_pos h.tail.symm]
      exact hfilled.1
  · refine Prod.ext rfl ?_
    show q.records ++ [record] = (List.range (q.count + 1)).map fun i =>
      (RecordQueue.slot _ (q.place i)).record
    rw [List.range_succ, List.map_append, List.map_singleton, hslot, if_pos h.tail.symm,
      hfilled.2.1]
    congr 1
    refine List.map_congr_left fun i hi => ?_
    rw [hslot, if_neg (hother i (List.mem_range.1 hi))]

/-- The list of a ring that holds a record: the oldest one, and the others. -/
theorem records_cons (h : q.Good) (hpos : q.count ≠ 0) :
    q.records = (q.slot q.head).record ::
      (List.range (q.count - 1)).map fun i => (q.slot (q.place (i + 1))).record := by
  obtain ⟨n, hn⟩ : ∃ n, q.count = n + 1 := ⟨q.count - 1, by omega⟩
  have hfirst : q.place 0 = q.head := by
    unfold RecordQueue.place
    rw [Nat.add_zero, Nat.mod_eq_of_lt h.head]
  unfold RecordQueue.records
  rw [hn, List.range_succ_eq_map, List.map_cons, List.map_map, hfirst]
  rfl

theorem records_nil (hzero : q.count = 0) : q.records = [] := by
  unfold RecordQueue.records
  rw [hzero]
  rfl

/-- **A pop removes the oldest record.** -/
theorem pop_refines (h : q.Good) : (queuePop q).2.Good ∧
    Fifo.after q.records .pop = (.status (queuePop q).1, (queuePop q).2.records) := by
  unfold queuePop
  by_cases hzero : q.count = 0
  · rw [if_pos hzero]
    refine ⟨h, ?_⟩
    rw [records_nil hzero]
    rfl
  rw [if_neg hzero]
  have hhead : q.head < q.slots.length := by
    rw [h.depth]
    exact h.head
  have hslot : ∀ i, RecordQueue.slot { q with
      slots := q.slots.set q.head (q.slot q.head).clear
      head := (q.head + 1) % txQueueDepth
      count := q.count - 1 } i = if i = q.head then (q.slot q.head).clear else q.slot i :=
    slot_set hhead
  have hplace : ∀ i, ((q.head + 1) % txQueueDepth + i) % txQueueDepth = q.place (i + 1) := by
    intro i
    unfold RecordQueue.place
    rw [Nat.mod_add_mod, Nat.add_assoc, Nat.add_comm 1 i]
  have hother : ∀ i < q.count - 1, q.place (i + 1) ≠ q.head := by
    intro i hi heq
    have hcount := h.count
    have hhead' := h.head
    unfold RecordQueue.place txQueueDepth at *
    omega
  refine ⟨⟨?_, ?_, Nat.mod_lt _ (by decide), ?_, ?_, ?_⟩, ?_⟩
  · rw [List.length_set, h.depth]
  · intro i hi
    rw [hslot]
    split_ifs with hi'
    · subst hi'
      exact h.bytes q.head hi
    · exact h.bytes i hi
  · exact Nat.le_trans (Nat.sub_le _ _) h.count
  · have htail := h.tail
    show q.tail = ((q.head + 1) % txQueueDepth + (q.count - 1)) % txQueueDepth
    rw [hplace, htail]
    congr 1
    omega
  · intro i hi
    show RecordSlot.Full (RecordQueue.slot _ (((q.head + 1) % txQueueDepth + i) % txQueueDepth))
    rw [hplace, hslot, if_neg (hother i hi)]
    exact h.full (i + 1) (by
      have hi' : i < q.count - 1 := hi
      omega)
  · rw [records_cons h hzero]
    refine Prod.ext rfl ?_
    refine List.map_congr_left fun i hi => ?_
    show (q.slot (q.place (i + 1))).record = (RecordQueue.slot _
      (((q.head + 1) % txQueueDepth + i) % txQueueDepth)).record
    rw [hplace, hslot, if_neg (hother i (List.mem_range.1 hi))]

theorem peek_refines (h : q.Good) :
    Fifo.after q.records .peek = ((queuePeek q).elim (.status .wouldBlock) .record, q.records) := by
  unfold queuePeek
  by_cases hzero : q.count = 0
  · rw [if_pos hzero, records_nil hzero]
    rfl
  · rw [if_neg hzero, records_cons h hzero]
    rfl

end Calls

/-! ### Dropping -/

section Drop

variable {q : RecordQueue}

/-- Whether the record `i` places behind the oldest one is kept. -/
def RecordQueue.keeps (q : RecordQueue) (sequence : UInt32) (i : ℕ) : Bool :=
  recordSequence (q.slot (q.place i)).record != sequence

/-- What the first loop has done after `n` iterations: it knows the slots of the records that are
kept, has counted the others, and has freed nothing else. -/
structure Scanned (q : RecordQueue) (sequence : UInt32) (n : ℕ) (s : Scan) : Prop where
  keepSrc : s.keepSrc = ((List.range n).filter (q.keeps sequence)).map q.place
  removed : s.removed = (List.range n).countP fun i => !q.keeps sequence i
  depth : s.slots.length = txQueueDepth
  bytes : ∀ i < txQueueDepth, (s.slots.getD i .zero).bytes.length = recordMax
  kept : ∀ i < q.count, (n ≤ i ∨ q.keeps sequence i = true) →
    s.slots.getD (q.place i) .zero = q.slot (q.place i)

theorem Scanned.step {sequence : UInt32} {n : ℕ} {s : Scan} (h : q.Good)
    (hs : Scanned q sequence n s) (hn : n < q.count) :
    Scanned q sequence (n + 1) (scanStep q.head sequence s n) := by
  have hslot : s.slots.getD (q.place n) .zero = q.slot (q.place n) := hs.kept n hn (.inl le_rfl)
  have hplace : (q.head + n) % txQueueDepth = q.place n := rfl
  have huse := (h.full n hn).inUse
  have hrange : List.range (n + 1) = List.range n ++ [n] := List.range_succ
  have hkeeps : (nwb1SeqBe (q.slot (q.place n)).bytes (q.slot (q.place n)).length = sequence) ↔
      q.keeps sequence n = false := by
    rw [h.sequence hn]
    unfold RecordQueue.keeps
    simp
  unfold scanStep
  dsimp only
  rw [hplace, hslot, if_neg (by rw [huse]; exact Bool.noConfusion)]
  by_cases hdrop : nwb1SeqBe (q.slot (q.place n)).bytes (q.slot (q.place n)).length = sequence
  · rw [if_pos hdrop]
    have hdrop' := hkeeps.1 hdrop
    have hlt : q.place n < s.slots.length := by
      rw [hs.depth]
      exact place_lt q n
    refine ⟨?_, ?_, ?_, ?_, ?_⟩
    · rw [hrange, List.filter_append]
      simp [hdrop', hs.keepSrc]
    · rw [hrange, List.countP_append]
      simp [hdrop', hs.removed]
    · rw [List.length_set, hs.depth]
    · intro i hi
      by_cases heq : q.place n = i
      · subst heq
        rw [getD_set_self hlt]
        exact h.bytes _ hi
      · rw [getD_set_ne heq]
        exact hs.bytes i hi
    · intro i hi hwaits
      have hne : n ≠ i := by
        rintro rfl
        rcases hwaits with hlater | hkept
        · omega
        · rw [hdrop'] at hkept
          cases hkept
      have hother : q.place n ≠ q.place i := fun heq =>
        hne (place_inj (Nat.lt_of_lt_of_le hn h.count) (Nat.lt_of_lt_of_le hi h.count) heq)
      rw [getD_set_ne hother]
      exact hs.kept i hi (hwaits.imp_left fun hle => by omega)
  · rw [if_neg hdrop]
    have hkept : q.keeps sequence n = true := Bool.eq_true_of_not_eq_false fun hno =>
      hdrop (hkeeps.2 hno)
    refine ⟨?_, ?_, hs.depth, hs.bytes, fun i hi hwaits => hs.kept i hi ?_⟩
    · rw [hrange, List.filter_append, List.map_append, ← hs.keepSrc]
      simp [hkept]
    · rw [hrange, List.countP_append]
      simp [hkept, hs.removed]
    · exact hwaits.imp_left fun hle => by omega

theorem scanned (h : q.Good) (sequence : UInt32) : Scanned q sequence q.count
    ((List.range q.count).foldl (scanStep q.head sequence) ⟨q.slots, 0, []⟩) := by
  have hrun : ∀ n ≤ q.count, Scanned q sequence n
      ((List.range n).foldl (scanStep q.head sequence) ⟨q.slots, 0, []⟩) := by
    intro n
    induction n with
    | zero => exact fun _ => ⟨rfl, rfl, h.depth, h.bytes, fun _ _ _ => rfl⟩
    | succ n ih =>
      intro hn
      rw [List.range_succ, List.foldl_append]
      exact (ih (by omega)).step h hn
  exact hrun q.count le_rfl

/-- The slots of the records that are kept are still to be moved. -/
theorem Scanned.pending {sequence : UInt32} {s : Scan} (h : q.Good)
    (hs : Scanned q sequence q.count s) :
    Pending .zero RecordSlot.inUse 0 s.keepSrc s.slots := by
  have hmem : ∀ k ∈ s.keepSrc, ∃ i, i < q.count ∧ q.keeps sequence i = true ∧ q.place i = k := by
    intro k hk
    rw [hs.keepSrc] at hk
    obtain ⟨i, hi, rfl⟩ := List.mem_map.1 hk
    obtain ⟨hi', hkept⟩ := List.mem_filter.1 hi
    exact ⟨i, List.mem_range.1 hi', hkept, rfl⟩
  refine ⟨?_, fun _ _ => Nat.zero_le _, ?_, ?_, ?_⟩
  · rw [hs.keepSrc]
    refine (List.nodup_range.filter _).map_on fun i hi j hj heq => ?_
    have hi' := List.mem_range.1 (List.mem_filter.1 hi).1
    have hj' := List.mem_range.1 (List.mem_filter.1 hj).1
    exact place_inj (Nat.lt_of_lt_of_le hi' h.count) (Nat.lt_of_lt_of_le hj' h.count) heq
  · intro k hk
    obtain ⟨i, -, -, rfl⟩ := hmem k hk
    rw [hs.depth]
    exact place_lt q i
  · intro k hk
    obtain ⟨i, hi, hkept, rfl⟩ := hmem k hk
    rw [hs.kept i hi (.inr hkept)]
    exact (h.full i hi).inUse
  · have hle := List.length_filter_le (q.keeps sequence) (List.range q.count)
    rw [hs.keepSrc, List.length_map, hs.depth, Nat.zero_add]
    rw [List.length_range] at hle
    exact Nat.le_trans hle h.count

/-- Freeing slots leaves the others. -/
theorem getD_clear (l : List ℕ) (slots : List RecordSlot) :
    (l.foldl (fun slots i => slots.set i (slots.getD i .zero).clear) slots).length = slots.length ∧
      (∀ j ∉ l, (l.foldl (fun slots i => slots.set i (slots.getD i .zero).clear) slots).getD j .zero =
        slots.getD j .zero) ∧
      ∀ j, ((l.foldl (fun slots i => slots.set i (slots.getD i .zero).clear) slots).getD j
        .zero).bytes = (slots.getD j .zero).bytes := by
  induction l generalizing slots with
  | nil => exact ⟨rfl, fun _ _ => rfl, fun _ => rfl⟩
  | cons i l ih =>
    obtain ⟨hlength, hother, hbytes⟩ := ih (slots.set i (slots.getD i .zero).clear)
    have hset : ∀ j, ((slots.set i (slots.getD i .zero).clear).getD j .zero).bytes =
        (slots.getD j .zero).bytes := by
      intro j
      by_cases hj : i = j
      · subst hj
        rcases Nat.lt_or_ge i slots.length with hlt | hge
        · rw [getD_set_self hlt]
          rfl
        · rw [List.set_eq_of_length_le hge]
      · rw [getD_set_ne hj]
    refine ⟨by rw [List.foldl_cons, hlength, List.length_set], fun j hj => ?_, fun j => ?_⟩
    · obtain ⟨hne, hnotin⟩ := not_or.1 (mt List.mem_cons.2 hj)
      rw [List.foldl_cons, hother j hnotin, getD_set_ne (Ne.symm hne)]
    · rw [List.foldl_cons, hbytes j, hset j]

/-- **A drop leaves the other records**, in their order. -/
theorem drop_refines (h : q.Good) (sequence : UInt32) : (queueDropSequence q sequence).2.Good ∧
    Fifo.after q.records (.dropSequence sequence) =
      (.removed (queueDropSequence q sequence).1, (queueDropSequence q sequence).2.records) := by
  unfold queueDropSequence
  by_cases hzero : q.count = 0
  · rw [if_pos hzero, records_nil hzero]
    exact ⟨h, rfl⟩
  rw [if_neg hzero]
  dsimp only
  have hs := scanned h sequence
  generalize (List.range q.count).foldl (scanStep q.head sequence) ⟨q.slots, 0, []⟩ = s at hs ⊢
  have hpending := hs.pending h
  obtain ⟨hmoved, hplaces⟩ := @compact_places _ .zero RecordSlot.inUse RecordSlot.clear _ _ hpending
  have hbytes : ∀ k, ((compact .zero RecordSlot.inUse RecordSlot.clear s.keepSrc.length
      (s.keepSrc, s.slots)).2.getD k .zero).bytes.length = recordMax := by
    have hclear : ∀ slot : RecordSlot, slot.bytes.length = recordMax →
        slot.clear.bytes.length = recordMax := fun _ hx => hx
    refine compact_forall hclear (fun k => ?_) _
    rcases Nat.lt_or_ge k txQueueDepth with hlt | hge
    · exact hs.bytes k hlt
    · rw [List.getD_eq_default _ _ (by rwa [hs.depth])]
      exact List.length_replicate
  generalize compact .zero RecordSlot.inUse RecordSlot.clear s.keepSrc.length
    (s.keepSrc, s.slots) = moved at hmoved hplaces hbytes ⊢
  obtain ⟨hlength, hother, hsame⟩ := getD_clear
    (List.range' s.keepSrc.length (txQueueDepth - s.keepSrc.length)) moved.2
  generalize (List.range' s.keepSrc.length (txQueueDepth - s.keepSrc.length)).foldl
    (fun slots i => slots.set i (slots.getD i .zero).clear) moved.2 = cleared
    at hlength hother hsame ⊢
  have hcount : s.keepSrc.length ≤ txQueueDepth := by
    have hroom := hpending.room
    rwa [Nat.zero_add, hs.depth] at hroom
  -- the slots in front hold the records that are kept
  have hfront : (List.range s.keepSrc.length).map (fun j => cleared.getD j .zero) =
      ((List.range q.count).filter (q.keeps sequence)).map fun i => q.slot (q.place i) := by
    have hkept : (List.range s.keepSrc.length).map (fun j => cleared.getD j .zero) =
        s.keepSrc.map fun k => s.slots.getD k .zero := by
      rw [← hplaces]
      refine List.map_congr_left fun j hj => hother j fun hmem => ?_
      have hlow := (List.mem_range'_1.1 hmem).1
      have hj' := List.mem_range.1 hj
      omega
    rw [hkept, hs.keepSrc, List.map_map]
    refine List.map_congr_left fun i hi => ?_
    obtain ⟨hi', hkept⟩ := List.mem_filter.1 hi
    exact hs.kept i (List.mem_range.1 hi') (.inr hkept)
  have hplace : ∀ j < s.keepSrc.length, (0 + j) % txQueueDepth = j := by
    intro j hj
    rw [Nat.zero_add, Nat.mod_eq_of_lt (by omega)]
  refine ⟨⟨hlength.trans (hmoved.trans hs.depth), fun i _ => ?_, Nat.zero_lt_succ 7,
    hcount, ?_, ?_⟩,
    ?_⟩
  · show (cleared.getD i .zero).bytes.length = recordMax
    rw [hsame]
    exact hbytes i
  · show (if s.keepSrc.length = txQueueDepth then 0 else s.keepSrc.length) =
      (0 + s.keepSrc.length) % txQueueDepth
    split_ifs with hall
    · rw [hall]
      rfl
    · rw [Nat.zero_add, Nat.mod_eq_of_lt (by omega)]
  · intro j hj
    have hj' : j < s.keepSrc.length := hj
    show (cleared.getD ((0 + j) % txQueueDepth) .zero).Full
    rw [hplace j hj']
    have hmem : cleared.getD j .zero ∈
        (List.range s.keepSrc.length).map fun j => cleared.getD j .zero :=
      List.mem_map_of_mem (List.mem_range.2 hj')
    rw [hfront] at hmem
    obtain ⟨i, hi, heq⟩ := List.mem_map.1 hmem
    rw [← heq]
    exact h.full i (List.mem_range.1 (List.mem_filter.1 hi).1)
  · have hrecords : (⟨cleared, 0, if s.keepSrc.length = txQueueDepth then 0 else s.keepSrc.length,
        s.keepSrc.length⟩ : RecordQueue).records =
        ((List.range q.count).filter (q.keeps sequence)).map
          fun i => (q.slot (q.place i)).record := by
      have hmap := congrArg (List.map RecordSlot.record) hfront
      rw [List.map_map, List.map_map] at hmap
      refine Eq.trans ?_ hmap
      refine List.map_congr_left fun j hj => ?_
      show (cleared.getD ((0 + j) % txQueueDepth) .zero).record = (cleared.getD j .zero).record
      rw [hplace j (List.mem_range.1 hj)]
    have hafter : Fifo.after q.records (.dropSequence sequence) =
        (.removed (q.records.countP fun r => recordSequence r == sequence),
          q.records.filter fun r => recordSequence r != sequence) := rfl
    rw [hrecords, hs.removed, hafter]
    unfold RecordQueue.records
    rw [List.countP_map, List.filter_map]
    refine Prod.ext (congrArg QueueAnswer.removed ?_) rfl
    refine List.countP_congr fun i _ => ?_
    unfold RecordQueue.keeps
    simp

end Drop

/-! ### Runs -/

/-- **One call.** The ring stays in order, answers what the list answers, and holds what the list
holds. -/
theorem after_refines {q : RecordQueue} (h : q.Good) (call : QueueCall) : (q.after call).2.Good ∧
    Fifo.after q.records call = ((q.after call).1, (q.after call).2.records) := by
  cases call with
  | push record => exact push_refines h record
  | peek => exact ⟨h, peek_refines h⟩
  | pop => exact pop_refines h
  | dropSequence sequence => exact drop_refines h sequence

/-- **The ring is the list.** In every run from an empty ring, whatever is pushed and dropped, the
calls answer what they answer on a list of at most eight records, and the ring holds that list. -/
theorem queue_refines_fifo (calls : List QueueCall) :
    (run RecordQueue.after queueInit calls).2.Good ∧
      run Fifo.after [] calls = ((run RecordQueue.after queueInit calls).1,
        (run RecordQueue.after queueInit calls).2.records) := by
  induction calls using List.reverseRecOn with
  | nil => exact ⟨good_queueInit, rfl⟩
  | append_singleton calls call ih =>
    obtain ⟨hgood, hrun⟩ := ih
    obtain ⟨hgood', hafter⟩ := after_refines hgood call
    unfold run at *
    rw [List.foldl_append, List.foldl_append, hrun]
    refine ⟨hgood', ?_⟩
    show (_ ++ [_], _) = (_ ++ [_], _)
    rw [hafter]
    rfl

end Ninlil.Wifi
