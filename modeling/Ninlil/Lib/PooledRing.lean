import Ninlil.Lib.Bytes

/-!
# Rings of descriptors over a pool of bytes

A queue of payloads in two arrays of fixed size: a ring of descriptors, and a pool of bytes in
which each descriptor says where its payload starts.  Entries are added behind the others in both;
after a removal the descriptors are copied to the front of the ring and the payloads are moved
together, the first one first.

* `PooledRing`: the two arrays with their counters;
* `order`, `reorder`, `packLoop`, `pack`, `tryEnqueue`: its parts of code;
* `Holds`: descriptors of some payloads, in the order of the pool;
* `LaidOut`: the same without gaps;
* `packLoop_laidOut`: moving together keeps every payload, although the moves may overlap;
* `IsQueue`: the ring is the queue of some items, kept by adding (`IsQueue.enqueue`) and by packing
  what is left of it (`isQueue_pack`).
-/

namespace Ninlil.Ring

open Bytes

/-- A descriptor of a payload in the pool. -/
structure Descriptor (α : Type*) where
  fields : α
  payloadLength : ℕ := 0
  payloadOff : ℕ := 0

instance {α : Type*} [Inhabited α] : Inhabited (Descriptor α) := ⟨{ fields := default }⟩

structure PooledRing (α : Type*) where
  slots : List (Descriptor α)
  head : ℕ := 0
  count : ℕ := 0
  bytes : ℕ := 0
  pool : List UInt8

variable {α : Type*}

/-- A ring of `n` zeroed descriptors over a pool of `cap` bytes. -/
def PooledRing.init (α : Type*) [Inhabited α] (n cap : ℕ) : PooledRing α where
  slots := List.replicate n default
  pool := List.replicate cap 0

/-- The descriptor `i` places behind the head. -/
def PooledRing.entry [Inhabited α] (q : PooledRing α) (n i : ℕ) : Descriptor α :=
  q.slots.getD ((q.head + i) % n) default

/-- The descriptors in the order of the queue. -/
def PooledRing.order [Inhabited α] (q : PooledRing α) (n : ℕ) : List (Descriptor α) :=
  (List.range q.count).map (q.entry n)

/-- A zeroed ring with some descriptors in front. -/
def PooledRing.reorder [Inhabited α] (q : PooledRing α) (n : ℕ) (ds : List (Descriptor α)) :
    PooledRing α :=
  { q with slots := ds ++ List.replicate (n - ds.length) default, head := 0 }

/-- `memmove` within the pool. -/
def move (pool : List UInt8) (dst src n : ℕ) : List UInt8 := store pool dst (slice pool src n)

/-- The loop that moves payloads together from `write` on: the descriptors, the pool and where the
last payload ends. -/
def packLoop : List (Descriptor α) → List UInt8 → ℕ → List (Descriptor α) × List UInt8 × ℕ
  | [], pool, write => ([], pool, write)
  | d :: ds, pool, write =>
    if d.payloadLength > 0 then
      let pool :=
        if d.payloadOff ≠ write then move pool write d.payloadOff d.payloadLength else pool
      let r := packLoop ds pool (write + d.payloadLength)
      ({ d with payloadOff := write } :: r.1, r.2)
    else
      let r := packLoop ds pool write
      ({ d with payloadOff := 0 } :: r.1, r.2)

/-- The payloads of the first entries of the ring moved together. -/
def PooledRing.pack (q : PooledRing α) : PooledRing α :=
  let r := packLoop (q.slots.take q.count) q.pool 0
  { q with slots := r.1 ++ q.slots.drop q.count, pool := r.2.1, bytes := r.2.2 }

/-- An entry behind the others, if there is a descriptor and room in the pool. -/
def PooledRing.tryEnqueue (q : PooledRing α) (n cap : ℕ) (fields : α) (payload : List UInt8) :
    Option (PooledRing α) :=
  if q.count ≥ n then none
  else if payload.length > cap - q.bytes then none
  else
    some
      { q with
        slots := q.slots.set ((q.head + q.count) % n)
          { fields, payloadLength := payload.length, payloadOff := q.bytes }
        pool := if payload.length > 0 then store q.pool q.bytes payload else q.pool
        bytes := q.bytes + payload.length
        count := q.count + 1 }

/-! ### Descriptors of payloads -/

/-- Fixed fields with a payload. -/
abbrev Item (α : Type*) := α × List UInt8

/-- Descriptors of some items, whose payloads follow each other in the pool from `lo` on. -/
def Holds (pool : List UInt8) : ℕ → List (Descriptor α) → List (Item α) → Prop
  | _, [], [] => True
  | lo, d :: ds, x :: xs =>
    d.fields = x.1 ∧ d.payloadLength = x.2.length ∧
      (x.2.length ≠ 0 → lo ≤ d.payloadOff ∧ slice pool d.payloadOff x.2.length = x.2) ∧
      Holds pool (if x.2.length = 0 then lo else d.payloadOff + x.2.length) ds xs
  | _, _, _ => False

/-- The same without gaps. -/
def LaidOut (pool : List UInt8) : ℕ → List (Descriptor α) → List (Item α) → Prop
  | _, [], [] => True
  | off, d :: ds, x :: xs =>
    d.fields = x.1 ∧ d.payloadLength = x.2.length ∧
      (x.2.length ≠ 0 → d.payloadOff = off ∧ slice pool off x.2.length = x.2) ∧
      LaidOut pool (off + x.2.length) ds xs
  | _, _, _ => False

/-- The bytes of some payloads. -/
def totalBytes (xs : List (Item α)) : ℕ := (xs.map fun x => x.2.length).sum

variable {pool pool' : List UInt8} {lo lo' off n cap : ℕ} {ds : List (Descriptor α)}
  {xs : List (Item α)} {q : PooledRing α}

theorem totalBytes_cons (x : Item α) (xs : List (Item α)) :
    totalBytes (x :: xs) = x.2.length + totalBytes xs := by
  rw [totalBytes, List.map_cons, List.sum_cons]
  rfl

theorem totalBytes_append (xs ys : List (Item α)) :
    totalBytes (xs ++ ys) = totalBytes xs + totalBytes ys := by
  rw [totalBytes, List.map_append, List.sum_append]
  rfl

theorem Holds.mono (h : Holds pool lo ds xs) (hle : lo' ≤ lo) : Holds pool lo' ds xs := by
  induction ds generalizing lo lo' xs with
  | nil =>
    cases xs with
    | nil => trivial
    | cons x xs => exact h.elim
  | cons d ds ih =>
    cases xs with
    | nil => exact h.elim
    | cons x xs =>
      obtain ⟨hf, hl, hp, ht⟩ := h
      refine ⟨hf, hl, fun hne => ⟨le_trans hle (hp hne).1, (hp hne).2⟩, ?_⟩
      by_cases hz : x.2.length = 0
      · rw [if_pos hz] at ht ⊢
        exact ih ht hle
      · rw [if_neg hz] at ht ⊢
        exact ht

theorem LaidOut.holds (h : LaidOut pool off ds xs) : Holds pool off ds xs := by
  induction ds generalizing off xs with
  | nil =>
    cases xs with
    | nil => trivial
    | cons x xs => exact h.elim
  | cons d ds ih =>
    cases xs with
    | nil => exact h.elim
    | cons x xs =>
      obtain ⟨hf, hl, hp, ht⟩ := h
      by_cases hz : x.2.length = 0
      · refine ⟨hf, hl, fun hne => absurd hz hne, ?_⟩
        rw [if_pos hz]
        rw [hz, Nat.add_zero] at ht
        exact ih ht
      · obtain ⟨hoff, hslice⟩ := hp hz
        refine ⟨hf, hl, fun _ => ⟨hoff.ge, hoff ▸ hslice⟩, ?_⟩
        rw [if_neg hz, hoff]
        exact ih ht

/-- Dropping entries leaves the others in order. -/
theorem Holds.filter (h : Holds pool lo ds xs) (keep : α → Bool) :
    Holds pool lo (ds.filter fun d => keep d.fields) (xs.filter fun x => keep x.1) := by
  induction ds generalizing lo xs with
  | nil =>
    cases xs with
    | nil => trivial
    | cons x xs => exact h.elim
  | cons d ds ih =>
    cases xs with
    | nil => exact h.elim
    | cons x xs =>
      obtain ⟨hf, hl, hp, ht⟩ := h
      by_cases hk : keep x.1
      · rw [List.filter_cons_of_pos (by rw [hf]; exact hk),
          List.filter_cons_of_pos (p := fun x : Item α => keep x.1) hk]
        exact ⟨hf, hl, hp, ih ht⟩
      · rw [List.filter_cons_of_neg (by rw [hf]; exact hk),
          List.filter_cons_of_neg (p := fun x : Item α => keep x.1) hk]
        refine (ih ht).mono ?_
        by_cases hz : x.2.length = 0
        · rw [if_pos hz]
        · rw [if_neg hz]
          have hle := (hp hz).1
          omega

/-- Payloads from `lo` on depend on the pool from `lo` on only. -/
theorem Holds.congr (h : Holds pool lo ds xs)
    (hpool : ∀ o k, lo ≤ o → slice pool' o k = slice pool o k) : Holds pool' lo ds xs := by
  induction ds generalizing lo xs with
  | nil =>
    cases xs with
    | nil => trivial
    | cons x xs => exact h.elim
  | cons d ds ih =>
    cases xs with
    | nil => exact h.elim
    | cons x xs =>
      obtain ⟨hf, hl, hp, ht⟩ := h
      refine ⟨hf, hl, fun hne => ⟨(hp hne).1, ?_⟩, ih ht fun o k ho => hpool o k ?_⟩
      · rw [hpool _ _ (hp hne).1]
        exact (hp hne).2
      · by_cases hz : x.2.length = 0
        · rwa [if_pos hz] at ho
        · rw [if_neg hz] at ho
          have hle := (hp hz).1
          omega

/-- A layout depends on its own part of the pool only. -/
theorem LaidOut.congr (h : LaidOut pool off ds xs)
    (hpool : ∀ o k, off ≤ o → o + k ≤ off + totalBytes xs → slice pool' o k = slice pool o k) :
    LaidOut pool' off ds xs := by
  induction ds generalizing off xs with
  | nil =>
    cases xs with
    | nil => trivial
    | cons x xs => exact h.elim
  | cons d ds ih =>
    cases xs with
    | nil => exact h.elim
    | cons x xs =>
      rw [totalBytes_cons] at hpool
      obtain ⟨hf, hl, hp, ht⟩ := h
      refine ⟨hf, hl, fun hne => ⟨(hp hne).1, ?_⟩,
        ih ht fun o k ho hk => hpool o k (by omega) (by omega)⟩
      rw [hpool _ _ le_rfl (by omega)]
      exact (hp hne).2

theorem LaidOut.append {ds' : List (Descriptor α)} {xs' : List (Item α)}
    (h : LaidOut pool off ds xs) (h' : LaidOut pool (off + totalBytes xs) ds' xs') :
    LaidOut pool off (ds ++ ds') (xs ++ xs') := by
  induction ds generalizing off xs with
  | nil =>
    cases xs with
    | nil => simpa [totalBytes] using h'
    | cons x xs => exact h.elim
  | cons d ds ih =>
    cases xs with
    | nil => exact h.elim
    | cons x xs =>
      obtain ⟨hf, hl, hp, ht⟩ := h
      rw [totalBytes_cons, ← Nat.add_assoc] at h'
      exact ⟨hf, hl, hp, ih ht h'⟩

/-! ### Moving together -/

theorem length_move (pool : List UInt8) (dst src n : ℕ) :
    (move pool dst src n).length = pool.length := length_store

theorem le_of_slice {p : List UInt8} (h : slice pool off p.length = p) (hne : p.length ≠ 0) :
    off + p.length ≤ pool.length := by
  have hlen := congrArg List.length h
  rw [slice, List.length_take, List.length_drop] at hlen
  omega

/-- **Moving payloads together keeps every one of them.**  A payload moves down to `write`, below
every payload that is still to be moved. -/
theorem packLoop_laidOut {write : ℕ} (h : Holds pool lo ds xs) (hw : write ≤ lo) :
    LaidOut (packLoop ds pool write).2.1 write (packLoop ds pool write).1 xs ∧
      (packLoop ds pool write).2.2 = write + totalBytes xs ∧
      (packLoop ds pool write).2.1.length = pool.length ∧
      ∀ o k, o + k ≤ write → slice (packLoop ds pool write).2.1 o k = slice pool o k := by
  induction ds generalizing pool lo write xs with
  | nil =>
    cases xs with
    | nil => exact ⟨trivial, rfl, rfl, fun _ _ _ => rfl⟩
    | cons x xs => exact h.elim
  | cons d ds ih =>
    cases xs with
    | nil => exact h.elim
    | cons x xs =>
      obtain ⟨hf, hl, hp, ht⟩ := h
      rw [packLoop, totalBytes_cons]
      by_cases hz : x.2.length = 0
      · rw [if_pos hz] at ht
        rw [if_neg (by omega)]
        obtain ⟨h1, h2, h3, h4⟩ := ih ht hw
        refine ⟨⟨hf, hl, fun hne => absurd hz hne, ?_⟩, ?_, h3, h4⟩
        · rw [hz, Nat.add_zero]
          exact h1
        · rw [hz, Nat.zero_add]
          exact h2
      · rw [if_neg hz] at ht
        rw [if_pos (by omega)]
        obtain ⟨hle, hslice⟩ := hp hz
        have hfit := le_of_slice hslice hz
        -- the pool after the move: the payload at `write`, and nothing else below or behind it
        generalize hpool : (if d.payloadOff ≠ write then move pool write d.payloadOff
          d.payloadLength else pool) = pool1
        have hlen1 : pool1.length = pool.length := by
          rw [← hpool]
          split_ifs
          · exact length_move ..
          · rfl
        have hself : slice pool1 write x.2.length = x.2 := by
          rw [← hpool, hl]
          split_ifs with hne
          · rw [move, slice_store_self (by rw [length_slice_of_le hfit]) (by omega), hslice]
          · rw [← not_not.1 hne]
            exact hslice
        have hbelow : ∀ o k, o + k ≤ write → slice pool1 o k = slice pool o k := by
          intro o k ho
          rw [← hpool]
          split_ifs
          · rw [move, slice_store_of_disjoint (Or.inl ho)]
          · rfl
        have hbehind : ∀ o k, d.payloadOff + x.2.length ≤ o →
            slice pool1 o k = slice pool o k := by
          intro o k ho
          rw [← hpool, hl]
          split_ifs
          · rw [move, slice_store_of_disjoint (Or.inr (by rw [length_slice_of_le hfit]; omega))]
          · rfl
        obtain ⟨h1, h2, h3, h4⟩ := ih (ht.congr hbehind) (by omega : write + d.payloadLength ≤ _)
        refine ⟨⟨hf, hl, fun _ => ⟨rfl, ?_⟩, ?_⟩, ?_, h3.trans hlen1, fun o k ho => ?_⟩
        · rw [h4 _ _ (by omega), hself]
        · rw [← hl]
          exact h1
        · rw [h2, hl, Nat.add_assoc]
        · rw [h4 _ _ (by omega), hbelow _ _ ho]

theorem length_packLoop (ds : List (Descriptor α)) (pool : List UInt8) (write : ℕ) :
    (packLoop ds pool write).1.length = ds.length := by
  induction ds generalizing pool write with
  | nil => rfl
  | cons d ds ih =>
    rw [packLoop]
    split_ifs <;> simp [ih]

/-! ### Queues -/

/-- A ring that is the queue of some items, its head in front. -/
structure IsQueue (n cap : ℕ) (q : PooledRing α) (xs : List (Item α)) : Prop where
  slots : q.slots.length = n
  pool : q.pool.length = cap
  head : q.head = 0
  count : q.count = xs.length
  count_le : q.count ≤ n
  bytes : q.bytes = totalBytes xs
  bytes_le : q.bytes ≤ cap
  laidOut : LaidOut q.pool 0 (q.slots.take q.count) xs

theorem isQueue_init [Inhabited α] (n cap : ℕ) : IsQueue n cap (PooledRing.init α n cap) [] where
  slots := List.length_replicate
  pool := List.length_replicate
  head := rfl
  count := rfl
  count_le := Nat.zero_le n
  bytes := rfl
  bytes_le := Nat.zero_le cap
  laidOut := trivial

/-- With its head in front, a ring is in the order of its array. -/
theorem PooledRing.order_eq [Inhabited α] (hs : q.slots.length = n) (hh : q.head = 0)
    (hc : q.count ≤ n) :
    q.order n = q.slots.take q.count := by
  refine List.ext_getElem ?_ fun i h1 h2 => ?_
  · rw [order, List.length_map, List.length_range, List.length_take, hs, min_eq_left hc]
  · rw [order, List.length_map, List.length_range] at h1
    simp only [order, entry, List.getElem_map, List.getElem_range, hh, Nat.zero_add,
      List.getElem_take]
    rw [Nat.mod_eq_of_lt (by omega), List.getD_eq_getElem _ _ (by omega)]

/-- The entry at the head. -/
theorem IsQueue.head_entry [Inhabited α] {x : Item α} (h : IsQueue n cap q (x :: xs)) :
    (q.entry n 0).fields = x.1 ∧ (q.entry n 0).payloadLength = x.2.length ∧
      slice q.pool (q.entry n 0).payloadOff (q.entry n 0).payloadLength = x.2 := by
  have hcount := h.count
  have hle := h.count_le
  rw [List.length_cons] at hcount
  have hne : q.slots ≠ [] := by
    intro hnil
    have hs := h.slots
    rw [hnil, List.length_nil] at hs
    omega
  obtain ⟨d, ds, hds⟩ := List.exists_cons_of_ne_nil hne
  have hentry : q.entry n 0 = d := by
    rw [PooledRing.entry, h.head, Nat.zero_mod, hds]
    rfl
  have hlaid := h.laidOut
  rw [hds, hcount, List.take_succ_cons] at hlaid
  obtain ⟨hf, hl, hp, -⟩ := hlaid
  rw [hentry]
  refine ⟨hf, hl, ?_⟩
  rw [hl]
  by_cases hz : x.2.length = 0
  · rw [List.length_eq_zero_iff.1 hz]
    simp [slice]
  · rw [(hp hz).1]
    exact (hp hz).2

/-- **An entry is added behind the others** exactly when there is a descriptor and room for it. -/
theorem IsQueue.enqueue (h : IsQueue n cap q xs) (fields : α) (payload : List UInt8) :
    (q.tryEnqueue n cap fields payload = none ↔
        xs.length ≥ n ∨ cap < totalBytes xs + payload.length) ∧
      ∀ q', q.tryEnqueue n cap fields payload = some q' →
        IsQueue n cap q' (xs ++ [(fields, payload)]) := by
  have hcount := h.count
  have hbytes := h.bytes
  have hcap := h.bytes_le
  have hslots := h.slots
  unfold PooledRing.tryEnqueue
  by_cases hfull : q.count ≥ n
  · rw [if_pos hfull]
    exact ⟨iff_of_true rfl (Or.inl (by omega)), nofun⟩
  rw [if_neg hfull]
  by_cases hroom : payload.length > cap - q.bytes
  · rw [if_pos hroom]
    exact ⟨iff_of_true rfl (Or.inr (by omega)), nofun⟩
  rw [if_neg hroom]
  refine ⟨iff_of_false nofun (by omega), fun q' hq' => ?_⟩
  rw [← Option.some.inj hq']
  have hslot : (q.head + q.count) % n = q.count := by
    rw [h.head, Nat.zero_add, Nat.mod_eq_of_lt (by omega)]
  have hpool : ∀ o k, o + k ≤ q.bytes →
      slice (if payload.length > 0 then store q.pool q.bytes payload else q.pool) o k =
        slice q.pool o k := by
    intro o k ho
    split_ifs
    · exact slice_store_of_disjoint (Or.inl ho)
    · rfl
  refine ⟨?_, ?_, h.head, ?_, by dsimp only; omega, ?_, by dsimp only; omega, ?_⟩
  · dsimp only
    rw [List.length_set, hslots]
  · dsimp only
    split_ifs
    · rw [length_store, h.pool]
    · exact h.pool
  · rw [List.length_append, List.length_singleton, hcount]
  · rw [totalBytes_append, totalBytes_cons]
    simp [totalBytes, hbytes]
  · dsimp only
    have hlast : (q.slots.set q.count
        { fields := fields, payloadLength := payload.length, payloadOff := q.bytes }).take
          (q.count + 1) = q.slots.take q.count ++
            [{ fields := fields, payloadLength := payload.length, payloadOff := q.bytes }] := by
      rw [List.take_succ_eq_append_getElem (by rw [List.length_set]; omega),
        List.take_set_of_le le_rfl, List.getElem_set_self]
    rw [hslot, hlast]
    refine LaidOut.append ?_ ?_
    · refine h.laidOut.congr fun o k _ hk => hpool o k ?_
      rw [hbytes]
      omega
    · rw [Nat.zero_add, ← hbytes]
      refine ⟨rfl, rfl, fun hne => ⟨rfl, ?_⟩, trivial⟩
      dsimp only at hne ⊢
      have hp := h.pool
      rw [if_pos (by omega), slice_store_self rfl (by omega)]

/-- **Packing what is left of a queue.**  Any of its entries may have been taken out, as long as
the others stay in order. -/
theorem isQueue_pack (hslots : q.slots.length = n) (hpool : q.pool.length = cap)
    (hhead : q.head = 0) (hcount : q.count ≤ n) (hlen : q.count = xs.length)
    (hbytes : totalBytes xs ≤ cap) (h : Holds q.pool 0 (q.slots.take q.count) xs) :
    IsQueue n cap q.pack xs := by
  obtain ⟨h1, h2, h3, -⟩ := packLoop_laidOut h (Nat.zero_le 0)
  rw [Nat.zero_add] at h2
  have hl : (packLoop (q.slots.take q.count) q.pool 0).1.length = q.count := by
    rw [length_packLoop, List.length_take, hslots, min_eq_left hcount]
  refine ⟨?_, h3.trans hpool, hhead, hlen, hcount, h2, by rw [PooledRing.pack, h2]; exact hbytes,
    ?_⟩
  · rw [PooledRing.pack, List.length_append, hl, List.length_drop, hslots]
    omega
  · simp only [PooledRing.pack]
    rw [List.take_append_of_le_length hl.ge, List.take_of_length_le hl.le]
    exact h1

theorem Holds.length_eq (h : Holds pool lo ds xs) : ds.length = xs.length := by
  induction ds generalizing lo xs with
  | nil =>
    cases xs with
    | nil => rfl
    | cons x xs => exact h.elim
  | cons d ds ih =>
    cases xs with
    | nil => exact h.elim
    | cons x xs => rw [List.length_cons, List.length_cons, ih h.2.2.2]

/-- Copying the entries that are left to the front, and packing them. -/
theorem isQueue_reorder_pack [Inhabited α] (hpool : q.pool.length = cap)
    (hcount : q.count = ds.length)
    (hle : ds.length ≤ n) (hbytes : totalBytes xs ≤ cap) (h : Holds q.pool 0 ds xs) :
    IsQueue n cap (q.reorder n ds).pack xs := by
  refine isQueue_pack ?_ hpool rfl (by rw [PooledRing.reorder, hcount]; exact hle)
    (hcount.trans h.length_eq) hbytes ?_
  · rw [PooledRing.reorder, List.length_append, List.length_replicate]
    omega
  · simp only [PooledRing.reorder, hcount]
    rwa [List.take_left]

/-- A ring without entries. -/
theorem isQueue_nil (hslots : q.slots.length = n) (hpool : q.pool.length = cap)
    (hcount : q.count = 0) : IsQueue n cap { q with head := 0, bytes := 0 } [] where
  slots := hslots
  pool := hpool
  head := rfl
  count := hcount
  count_le := hcount.trans_le (Nat.zero_le n)
  bytes := rfl
  bytes_le := Nat.zero_le cap
  laidOut := by
    dsimp only
    rw [hcount]
    trivial

/-- What is left when the head has moved on by one. -/
theorem IsQueue.popped [Inhabited α] {x : Item α} (h : IsQueue n cap q (x :: xs)) :
    (PooledRing.order { q with head := (q.head + 1) % n, count := q.count - 1 } n).length =
        xs.length ∧
      Holds q.pool 0 (PooledRing.order { q with head := (q.head + 1) % n, count := q.count - 1 } n)
        xs := by
  have hcount := h.count
  have hle := h.count_le
  have hslots := h.slots
  rw [List.length_cons] at hcount
  have horder : PooledRing.order { q with head := (q.head + 1) % n, count := q.count - 1 } n =
      (q.slots.take q.count).tail := by
    refine List.ext_getElem ?_ fun i h1 h2 => ?_
    · simp only [PooledRing.order, List.length_map, List.length_range, List.length_tail,
        List.length_take]
      omega
    · simp only [PooledRing.order, List.length_map, List.length_range] at h1
      simp only [PooledRing.order, PooledRing.entry, List.getElem_map, List.getElem_range, h.head,
        List.getElem_tail, List.getElem_take]
      have hone : (0 + 1) % n = 1 := Nat.mod_eq_of_lt (by omega)
      have hi : (1 + i) % n = i + 1 := by
        rw [Nat.add_comm]
        exact Nat.mod_eq_of_lt (by omega)
      rw [hone, hi, List.getD_eq_getElem _ _ (by omega)]
  have hlaid := h.laidOut
  rw [horder]
  cases hds : q.slots.take q.count with
  | nil =>
    rw [hds] at hlaid
    exact hlaid.elim
  | cons d ds =>
    rw [hds] at hlaid
    have hrest := hlaid.2.2.2.holds.mono (Nat.zero_le _)
    exact ⟨hrest.length_eq, hrest⟩

theorem LaidOut.map_eq {β : Type*} (h : LaidOut pool off ds xs) (g : α → List UInt8 → β) :
    ds.map (fun d => g d.fields (slice pool d.payloadOff d.payloadLength)) =
      xs.map fun x => g x.1 x.2 := by
  induction ds generalizing off xs with
  | nil =>
    cases xs with
    | nil => rfl
    | cons x xs => exact h.elim
  | cons d ds ih =>
    cases xs with
    | nil => exact h.elim
    | cons x xs =>
      obtain ⟨hf, hl, hp, ht⟩ := h
      have hpayload : slice pool d.payloadOff d.payloadLength = x.2 := by
        rw [hl]
        by_cases hz : x.2.length = 0
        · rw [List.length_eq_zero_iff.1 hz]
          simp [slice]
        · rw [(hp hz).1]
          exact (hp hz).2
      rw [List.map_cons, List.map_cons, ih ht, hf, hpayload]

/-- What the ring holds, read out of its pool. -/
theorem IsQueue.order_map [Inhabited α] {β : Type*} (h : IsQueue n cap q xs)
    (g : α → List UInt8 → β) :
    (q.order n).map (fun d => g d.fields (slice q.pool d.payloadOff d.payloadLength)) =
      xs.map fun x => g x.1 x.2 := by
  rw [PooledRing.order_eq h.slots h.head h.count_le]
  exact h.laidOut.map_eq g

end Ninlil.Ring
