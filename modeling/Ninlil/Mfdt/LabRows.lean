import Ninlil.Mfdt.LabStore

/-!
# Rows that share no bytes

* `LabStore.Sound`: the occupied rows have different keys and stand apart in the used pool;
* `Sound.fillRow`, `Sound.clearRow`: what a write or a release keeps, and what each key shows then;
* `Account`: the values of the keys, with the rows and the bytes of the pool that they take;
* `applyOp_account`: an operation of the store is one of its account.
-/

namespace Ninlil.Mfdt

open Memory
open Function (update update_of_ne update_self update_eq_self)

section Rows

variable {pools : Pools} {s : LabStore} {key key' : Key} {i j : Fin labMaxRows}
  {value : List UInt8} {offset : ℕ}

/-- The bytes of two rows. -/
def Row.Apart (r r' : Row) : Prop :=
  r.value + r.valueLen ≤ r'.value ∨ r'.value + r'.valueLen ≤ r.value

/-- The occupied rows have different keys and different bytes of the used pool. -/
structure LabStore.Sound (pools : Pools) (s : LabStore) : Prop where
  keys : ∀ i j, (s.rows i).occupied = true → (s.rows j).occupied = true →
    (s.rows i).key = (s.rows j).key → i = j
  within : ∀ i, (s.rows i).occupied = true →
    (s.rows i).value + (s.rows i).valueLen ≤ s.poolUsed.toNat
  apart : ∀ i j, (s.rows i).occupied = true → (s.rows j).occupied = true → i ≠ j →
    (s.rows i).Apart (s.rows j)
  used : s.poolUsed.toNat ≤ pools.value

theorem findRow_eq_none : findRow s key = none ↔
    ∀ i, (s.rows i).occupied = true → (s.rows i).key ≠ key := by
  unfold findRow
  simp only [List.find?_eq_none, List.mem_finRange, true_implies, Bool.and_eq_true, beq_iff_eq,
    not_and]

theorem findRow_eq_some (h : findRow s key = some i) :
    (s.rows i).occupied = true ∧ (s.rows i).key = key := by
  have hsome := List.find?_some h
  simpa only [Bool.and_eq_true, beq_iff_eq] using hsome

/-- A key has one row at most. -/
theorem LabStore.Sound.findRow_eq (h : s.Sound pools) (hocc : (s.rows i).occupied = true) :
    findRow s (s.rows i).key = some i := by
  cases hfind : findRow s (s.rows i).key with
  | none => exact absurd rfl (findRow_eq_none.1 hfind i hocc)
  | some j =>
    obtain ⟨hj, hkey⟩ := findRow_eq_some hfind
    rw [h.keys j i hj hocc hkey]

theorem freeRow_eq_some (h : freeRow s = some i) : (s.rows i).occupied = false := by
  have hsome := List.find?_some h
  simpa using hsome

theorem freeRow_eq_none : freeRow s = none ↔ ∀ i, (s.rows i).occupied = true := by
  unfold freeRow
  simp only [List.find?_eq_none, List.mem_finRange, true_implies, Bool.not_eq_true',
    Bool.not_eq_false]

/-- The rows in use. -/
def LabStore.occupiedRows (s : LabStore) : Finset (Fin labMaxRows) :=
  Finset.univ.filter fun i => (s.rows i).occupied = true

@[simp] theorem mem_occupiedRows : i ∈ s.occupiedRows ↔ (s.rows i).occupied = true := by
  simp [LabStore.occupiedRows]

/-! ### A row is written -/

@[simp] theorem fillRow_rows_self : (s.fillRow i key offset value).rows i =
    ⟨key, offset, value.length, true⟩ := update_self ..

theorem fillRow_rows_of_ne (h : j ≠ i) : (s.fillRow i key offset value).rows j = s.rows j :=
  update_of_ne h _ _

/-- A row may be written where no other one stands, if no other one has the key. -/
structure LabStore.CanFill (s : LabStore) (i : Fin labMaxRows) (key : Key) (offset len : ℕ) :
    Prop where
  key : ∀ j, j ≠ i → (s.rows j).occupied = true → (s.rows j).key ≠ key
  within : offset + len ≤ s.poolUsed.toNat
  apart : ∀ j, j ≠ i → (s.rows j).occupied = true →
    offset + len ≤ (s.rows j).value ∨ (s.rows j).value + (s.rows j).valueLen ≤ offset

theorem LabStore.Sound.fillRow (h : s.Sound pools) (hfill : s.CanFill i key offset value.length) :
    (s.fillRow i key offset value).Sound pools := by
  have hself := @fillRow_rows_self s key i value offset
  have hother (j : Fin labMaxRows) (hj : j ≠ i) := @fillRow_rows_of_ne s key i j value offset hj
  refine ⟨fun j k hj hk hkeys => ?_, fun j hj => ?_, fun j k hj hk hne => ?_, h.used⟩
  · by_cases hji : j = i
    · subst hji
      by_contra hne
      have hkj : k ≠ j := fun heq => hne heq.symm
      rw [hself, hother k hkj] at hkeys
      rw [hother k hkj] at hk
      exact hfill.key k hkj hk hkeys.symm
    · by_cases hki : k = i
      · subst hki
        rw [hself, hother j hji] at hkeys
        rw [hother j hji] at hj
        exact absurd hkeys (hfill.key j hji hj)
      · rw [hother j hji, hother k hki] at hkeys
        rw [hother j hji] at hj
        rw [hother k hki] at hk
        exact h.keys j k hj hk hkeys
  · by_cases hji : j = i
    · subst hji
      rw [hself]
      exact hfill.within
    · rw [hother j hji] at hj ⊢
      exact h.within j hj
  · by_cases hji : j = i
    · subst hji
      have hkj : k ≠ j := fun heq => hne heq.symm
      rw [hother k hkj] at hk
      rw [hself, hother k hkj]
      exact hfill.apart k hkj hk
    · by_cases hki : k = i
      · subst hki
        rw [hother j hji] at hj
        rw [hself, hother j hji]
        exact (hfill.apart j hji hj).symm
      · rw [hother j hji] at hj ⊢
        rw [hother k hki] at hk ⊢
        exact h.apart j k hj hk hne

/-- The key of the row shows the value; the others show what they did, except the one that the row
had. -/
theorem LabStore.Sound.labView_fillRow (h : s.Sound pools)
    (hfill : s.CanFill i key offset value.length)
    (hi : (s.rows i).occupied = true → (s.rows i).key = key) :
    labView (s.fillRow i key offset value) = update (labView s) key (some value) := by
  have hsound := h.fillRow hfill
  have hself := @fillRow_rows_self s key i value offset
  funext key'
  by_cases hkey : key' = key
  · subst hkey
    have hocc : ((s.fillRow i key' offset value).rows i).occupied = true := by rw [hself]
    have hfind := hsound.findRow_eq hocc
    rw [hself] at hfind
    rw [update_self, labView, hfind, Option.map_some, LabStore.bytes, hself]
    exact congrArg some (Mem.read_write_same rfl)
  · rw [update_of_ne hkey]
    unfold labView
    cases hfind : findRow s key' with
    | none =>
      have hnone : findRow (s.fillRow i key offset value) key' = none := by
        refine findRow_eq_none.2 fun j hj => ?_
        by_cases hji : j = i
        · rw [hji, hself]
          exact fun heq => hkey heq.symm
        · rw [fillRow_rows_of_ne hji] at hj ⊢
          exact findRow_eq_none.1 hfind j hj
      rw [hnone]
      rfl
    | some j =>
      obtain ⟨hj, hjkey⟩ := findRow_eq_some hfind
      have hji : j ≠ i := by
        rintro rfl
        exact hkey (hjkey.symm.trans (hi hj))
      have hrow := @fillRow_rows_of_ne s key i j value offset hji
      have hocc : ((s.fillRow i key offset value).rows j).occupied = true := by rw [hrow, hj]
      have hagain := hsound.findRow_eq hocc
      rw [hrow, hjkey] at hagain
      rw [hagain, Option.map_some, Option.map_some, LabStore.bytes, LabStore.bytes, hrow]
      refine congrArg some (Mem.read_write_apart ?_)
      exact (hfill.apart j hji hj).symm

/-! ### A row is freed -/

theorem clearRow_rows_of_ne (h : j ≠ i) : (s.clearRow i).rows j = s.rows j :=
  update_of_ne h _ _

@[simp] theorem clearRow_occupied : ((s.clearRow i).rows i).occupied = false := by
  simp [LabStore.clearRow]

theorem occupied_of_clearRow (h : ((s.clearRow i).rows j).occupied = true) :
    j ≠ i ∧ (s.rows j).occupied = true ∧ (s.clearRow i).rows j = s.rows j := by
  have hji : j ≠ i := by
    rintro rfl
    rw [clearRow_occupied] at h
    cases h
  have hrow := @clearRow_rows_of_ne s i j hji
  rw [hrow] at h
  exact ⟨hji, h, hrow⟩

theorem LabStore.Sound.clearRow (h : s.Sound pools) : (s.clearRow i).Sound pools := by
  refine ⟨fun j k hj hk hkeys => ?_, fun j hj => ?_, fun j k hj hk hne => ?_, h.used⟩
  · obtain ⟨-, hj, hrow⟩ := occupied_of_clearRow hj
    obtain ⟨-, hk, hrow'⟩ := occupied_of_clearRow hk
    rw [hrow, hrow'] at hkeys
    exact h.keys j k hj hk hkeys
  · obtain ⟨-, hj, hrow⟩ := occupied_of_clearRow hj
    rw [hrow]
    exact h.within j hj
  · obtain ⟨-, hj, hrow⟩ := occupied_of_clearRow hj
    obtain ⟨-, hk, hrow'⟩ := occupied_of_clearRow hk
    rw [hrow, hrow']
    exact h.apart j k hj hk hne

theorem LabStore.Sound.labView_clearRow (h : s.Sound pools) (hi : (s.rows i).occupied = true) :
    labView (s.clearRow i) = update (labView s) (s.rows i).key none := by
  have hsound : (s.clearRow i).Sound pools := h.clearRow
  funext key'
  by_cases hkey : key' = (s.rows i).key
  · subst hkey
    have hnone : findRow (s.clearRow i) (s.rows i).key = none := by
      refine findRow_eq_none.2 fun j hj heq => ?_
      obtain ⟨hji, hj, hrow⟩ := occupied_of_clearRow hj
      rw [hrow] at heq
      exact hji (h.keys j i hj hi heq)
    rw [update_self, labView, hnone]
    rfl
  · rw [update_of_ne hkey]
    unfold labView
    cases hfind : findRow s key' with
    | none =>
      have hnone : findRow (s.clearRow i) key' = none := by
        refine findRow_eq_none.2 fun j hj => ?_
        obtain ⟨-, hj, hrow⟩ := occupied_of_clearRow hj
        rw [hrow]
        exact findRow_eq_none.1 hfind j hj
      rw [hnone]
      rfl
    | some j =>
      obtain ⟨hj, hjkey⟩ := findRow_eq_some hfind
      have hji : j ≠ i := by
        rintro rfl
        exact hkey hjkey.symm
      have hrow := @clearRow_rows_of_ne s i j hji
      have hocc : ((s.clearRow i).rows j).occupied = true := by rw [hrow, hj]
      have hagain := hsound.findRow_eq hocc
      rw [hrow, hjkey] at hagain
      rw [hagain, Option.map_some, Option.map_some, LabStore.bytes, LabStore.bytes, hrow]
      rfl

/-! ### Accounts -/

/-- What each key shows, how many rows are in use and how much of the pool. -/
structure Account where
  view : Key → Option (List UInt8)
  rows : ℕ
  used : ℕ

/-- The bytes that an operation brings. -/
def LabOp.length : LabOp → ℕ
  | .put _ value => value.length
  | .del _ => 0

/-- What each key shows after an operation. -/
def LabOp.apply (op : LabOp) (view : Key → Option (List UInt8)) : Key → Option (List UInt8) :=
  match op with
  | .put key value => update view key (some value)
  | .del key => update view key none

/-- An operation on an account, if there is room for it: a new key needs a row and bytes of the
pool, a longer value needs bytes only, and the last deletion gives all bytes back. -/
def Account.step (pools : Pools) (a : Account) (op : LabOp) : Option Account :=
  match op with
  | .del key =>
    let rows := if (a.view key).isSome then a.rows - 1 else a.rows
    some ⟨op.apply a.view, rows, if rows = 0 then 0 else a.used⟩
  | .put key value =>
    match a.view key with
    | none =>
      if a.rows < labMaxRows ∧ a.used + value.length ≤ pools.value then
        some ⟨op.apply a.view, a.rows + 1, a.used + value.length⟩
      else none
    | some old =>
      if old.length < value.length then
        if a.used + value.length ≤ pools.value then
          some ⟨op.apply a.view, a.rows, a.used + value.length⟩
        else none
      else some ⟨op.apply a.view, a.rows, a.used⟩

/-- The account of a store. -/
def LabStore.account (s : LabStore) : Account :=
  ⟨labView s, s.occupiedRows.card, s.poolUsed.toNat⟩

/-- A row that is written is in use. -/
theorem occupiedRows_fillRow : (s.fillRow i key offset value).occupiedRows =
    insert i s.occupiedRows := by
  ext j
  rw [Finset.mem_insert, mem_occupiedRows, mem_occupiedRows]
  by_cases hji : j = i
  · subst hji
    rw [fillRow_rows_self]
    simp
  · rw [fillRow_rows_of_ne hji]
    simp [hji]

theorem occupiedRows_clearRow : (s.clearRow i).occupiedRows = s.occupiedRows.erase i := by
  ext j
  rw [Finset.mem_erase, mem_occupiedRows, mem_occupiedRows]
  by_cases hji : j = i
  · subst hji
    simp
  · rw [clearRow_rows_of_ne hji]
    simp [hji]

/-- All rows are in use exactly if none is free. -/
theorem card_occupiedRows_lt (h : freeRow s = some i) : s.occupiedRows.card < labMaxRows := by
  have hfree := freeRow_eq_some h
  have hlt := Finset.card_lt_univ_of_notMem (s := s.occupiedRows) (x := i) (by
    rw [mem_occupiedRows, hfree]
    decide)
  rwa [Fintype.card_fin] at hlt

theorem card_occupiedRows_full (h : freeRow s = none) : s.occupiedRows.card = labMaxRows := by
  have hall : s.occupiedRows = Finset.univ := by
    ext j
    simp [freeRow_eq_none.1 h j]
  rw [hall, Finset.card_univ, Fintype.card_fin]

/-! ### A put -/

/-- Without a wrap, there is room exactly if the bytes fit. -/
theorem LabStore.Sound.toNat_used (h : s.Sound pools) {n : ℕ} (hn : n ≤ pools.staging) :
    (s.poolUsed + UInt32.ofNat n).toNat = s.poolUsed.toNat + n := by
  have hused := h.used
  have hbound := pools.bound
  rw [UInt32.toNat_add, UInt32.toNat_ofNat_of_lt' (by show n < 2 ^ 32; omega)]
  exact Nat.mod_eq_of_lt (by omega)

theorem LabStore.Sound.hasRoom_iff (h : s.Sound pools) {n : ℕ} (hn : n ≤ pools.staging) :
    s.hasRoom pools n = true ↔ s.poolUsed.toNat + n ≤ pools.value := by
  unfold LabStore.hasRoom
  rw [decide_eq_true_eq, h.toNat_used hn]

/-- More of the pool is used. -/
theorem LabStore.Sound.grow (h : s.Sound pools) {n : ℕ} (hn : n ≤ pools.staging)
    (hroom : s.poolUsed.toNat + n ≤ pools.value) :
    { s with poolUsed := s.poolUsed + UInt32.ofNat n }.Sound pools := by
  refine ⟨h.keys, fun i hi => ?_, h.apart, ?_⟩
  · have hwithin := h.within i hi
    show (s.rows i).value + (s.rows i).valueLen ≤ (s.poolUsed + UInt32.ofNat n).toNat
    rw [h.toNat_used hn]
    omega
  · show (s.poolUsed + UInt32.ofNat n).toNat ≤ _
    rw [h.toNat_used hn]
    exact hroom

/-- A value of new bytes at the end of the pool. -/
theorem LabStore.Sound.appendRow (h : s.Sound pools) (hn : value.length ≤ pools.staging)
    (hroom : s.poolUsed.toNat + value.length ≤ pools.value)
    (hkey : ∀ j, j ≠ i → (s.rows j).occupied = true → (s.rows j).key ≠ key)
    (hi : (s.rows i).occupied = true → (s.rows i).key = key) :
    (s.appendRow i key value).Sound pools ∧
      (s.appendRow i key value).account = ⟨update (labView s) key (some value),
        (insert i s.occupiedRows).card, s.poolUsed.toNat + value.length⟩ := by
  have hgrown := h.grow hn hroom
  set grown := { s with poolUsed := s.poolUsed + UInt32.ofNat value.length } with hdef
  have hfill : grown.CanFill i key s.poolUsed.toNat value.length := by
    refine ⟨hkey, ?_, fun j _ hj => .inr (h.within j hj)⟩
    show _ ≤ (s.poolUsed + UInt32.ofNat value.length).toNat
    rw [h.toNat_used hn]
  have hview := hgrown.labView_fillRow hfill hi
  have hrows : (grown.fillRow i key s.poolUsed.toNat value).occupiedRows =
      insert i s.occupiedRows := occupiedRows_fillRow
  refine ⟨hgrown.fillRow hfill, ?_⟩
  unfold LabStore.account
  rw [LabStore.appendRow, hview, hrows]
  exact congrArg (Account.mk _ _) (h.toNat_used hn)

/-- A value that takes the place of one that is no shorter. -/
theorem LabStore.Sound.refillRow (h : s.Sound pools) (hi : (s.rows i).occupied = true)
    (hlen : value.length ≤ (s.rows i).valueLen) :
    (s.fillRow i (s.rows i).key (s.rows i).value value).Sound pools ∧
      (s.fillRow i (s.rows i).key (s.rows i).value value).account =
        ⟨update (labView s) (s.rows i).key (some value), s.occupiedRows.card,
          s.poolUsed.toNat⟩ := by
  have hfill : s.CanFill i (s.rows i).key (s.rows i).value value.length := by
    have hwithin := h.within i hi
    refine ⟨fun j hji hj heq => hji (h.keys j i hj hi heq), by omega, fun j hji hj => ?_⟩
    rcases h.apart j i hj hi hji with hbefore | hbehind
    · exact .inr hbefore
    · exact .inl (by omega)
  refine ⟨h.fillRow hfill, ?_⟩
  unfold LabStore.account
  rw [h.labView_fillRow hfill fun _ => rfl, occupiedRows_fillRow,
    Finset.insert_eq_of_mem (mem_occupiedRows.2 hi)]
  rfl

theorem labView_of_findRow (h : findRow s key = some i) : labView s key = some (s.bytes i) := by
  rw [labView, h, Option.map_some]

/-- A put, by its account. -/
theorem applyPut_account (h : s.Sound pools) (hn : value.length ≤ pools.staging) :
    (s.account.step pools (.put key value) = none ∧ applyPut pools s key value = (.capacity, s)) ∨
      ∃ a s', s.account.step pools (.put key value) = some a ∧
        applyPut pools s key value = (.ok, s') ∧ s'.Sound pools ∧ s'.account = a := by
  have hroom := h.hasRoom_iff hn
  unfold applyPut Account.step LabStore.account
  simp only
  cases hfind : findRow s key with
  | none =>
    have hview : labView s key = none := by rw [labView, hfind]; rfl
    have habsent := findRow_eq_none.1 hfind
    rw [hview]
    cases hfree : freeRow s with
    | none =>
      have hfull := card_occupiedRows_full hfree
      refine .inl ⟨if_neg fun hspace => ?_, rfl⟩
      omega
    | some i =>
      have hlt := card_occupiedRows_lt hfree
      have hi := freeRow_eq_some hfree
      by_cases hfits : s.poolUsed.toNat + value.length ≤ pools.value
      · obtain ⟨hsound, haccount⟩ := @LabStore.Sound.appendRow _ _ key i _ h hn hfits
          (fun j _ hj => habsent j hj) (fun hocc => by rw [hi] at hocc; cases hocc)
        have hcard : (insert i s.occupiedRows).card = s.occupiedRows.card + 1 :=
          Finset.card_insert_of_notMem (by rw [mem_occupiedRows, hi]; decide)
        rw [hcard] at haccount
        simp only [hroom.2 hfits, if_true]
        exact .inr ⟨_, _, if_pos ⟨hlt, hfits⟩, rfl, hsound, haccount⟩
      · have hno : s.hasRoom pools value.length = false :=
          Bool.eq_false_iff.2 fun hyes => hfits (hroom.1 hyes)
        simp only [hno]
        exact .inl ⟨if_neg fun hspace => hfits hspace.2, if_neg Bool.false_ne_true⟩
  | some i =>
    obtain ⟨hi, hkey⟩ := findRow_eq_some hfind
    have hlength : (s.bytes i).length = (s.rows i).valueLen := Mem.length_read _ _ _
    rw [labView_of_findRow hfind]
    simp only [hlength]
    by_cases hlonger : (s.rows i).valueLen < value.length
    · rw [if_pos hlonger, if_pos hlonger]
      by_cases hfits : s.poolUsed.toNat + value.length ≤ pools.value
      · obtain ⟨hsound, haccount⟩ := @LabStore.Sound.appendRow _ _ key i _ h hn hfits
          (fun j hji hj heq => hji (h.keys j i hj hi (heq.trans hkey.symm))) fun _ => hkey
        rw [Finset.insert_eq_of_mem (mem_occupiedRows.2 hi)] at haccount
        rw [if_pos hfits, if_pos (hroom.2 hfits)]
        exact .inr ⟨_, _, rfl, rfl, hsound, haccount⟩
      · have hno : ¬s.hasRoom pools value.length = true := fun hyes => hfits (hroom.1 hyes)
        rw [if_neg hfits, if_neg hno]
        exact .inl ⟨rfl, rfl⟩
    · obtain ⟨hsound, haccount⟩ := h.refillRow hi (Nat.not_lt.1 hlonger)
      rw [hkey] at hsound haccount
      rw [if_neg hlonger, if_neg hlonger]
      exact .inr ⟨_, _, rfl, rfl, hsound, haccount⟩

/-! ### A deletion -/

/-- A deletion, by what each key shows. -/
theorem LabStore.Sound.dropKey (h : s.Sound pools) (key : Key) :
    (s.dropKey key).Sound pools ∧
      labView (s.dropKey key) = update (labView s) key none ∧
      (s.dropKey key).occupiedRows.card =
        (if (labView s key).isSome then s.occupiedRows.card - 1 else s.occupiedRows.card) ∧
      (s.dropKey key).poolUsed = s.poolUsed := by
  unfold LabStore.dropKey
  cases hfind : findRow s key with
  | none =>
    have hview : labView s key = none := by rw [labView, hfind]; rfl
    refine ⟨h, ?_, ?_, rfl⟩
    · rw [← hview, update_eq_self]
    · rw [hview]
      rfl
  | some i =>
    obtain ⟨hi, hkey⟩ := findRow_eq_some hfind
    have hview := h.labView_clearRow hi
    rw [hkey] at hview
    refine ⟨h.clearRow, hview, ?_, rfl⟩
    simp only [occupiedRows_clearRow, labView_of_findRow hfind, Option.isSome_some, if_true]
    exact Finset.card_erase_of_mem (mem_occupiedRows.2 hi)

theorem maybeReclaimPool_eq (s : LabStore) : maybeReclaimPool s =
    if s.occupiedRows.card = 0 then { s with poolUsed := 0 } else s := by
  unfold maybeReclaimPool
  by_cases hany : (List.finRange labMaxRows).any fun i => (s.rows i).occupied
  · obtain ⟨i, -, hi⟩ := List.any_eq_true.1 hany
    have hne : s.occupiedRows.card ≠ 0 :=
      Finset.card_ne_zero_of_mem (mem_occupiedRows.2 hi)
    rw [if_pos hany, if_neg hne]
  · have hzero : s.occupiedRows.card = 0 := by
      rw [Finset.card_eq_zero, Finset.eq_empty_iff_forall_notMem]
      intro i hi
      exact hany (List.any_eq_true.2 ⟨i, List.mem_finRange i, mem_occupiedRows.1 hi⟩)
    rw [if_neg hany, if_pos hzero]

/-- Without rows, the pool can be used from its start again. -/
theorem LabStore.Sound.reclaim (h : s.Sound pools) : (maybeReclaimPool s).Sound pools ∧
    (maybeReclaimPool s).account = ⟨labView s, s.occupiedRows.card,
      if s.occupiedRows.card = 0 then 0 else s.poolUsed.toNat⟩ := by
  rw [maybeReclaimPool_eq]
  by_cases hzero : s.occupiedRows.card = 0
  · rw [if_pos hzero, if_pos hzero]
    have hnone (i : Fin labMaxRows) : ¬(s.rows i).occupied = true := fun hi =>
      absurd hzero (Finset.card_ne_zero_of_mem (mem_occupiedRows.2 hi))
    exact ⟨⟨h.keys, fun i hi => absurd hi (hnone i), h.apart, Nat.zero_le _⟩, rfl⟩
  · rw [if_neg hzero, if_neg hzero]
    exact ⟨h, rfl⟩

/-- An operation of the store is one of its account: it fails, and changes nothing, exactly if the
account has no room. -/
theorem applyOp_account (h : s.Sound pools) {op : LabOp} (hn : op.length ≤ pools.staging) :
    (s.account.step pools op = none ∧ applyOp pools s op = (.capacity, s)) ∨
      ∃ a s', s.account.step pools op = some a ∧ applyOp pools s op = (.ok, s') ∧
        s'.Sound pools ∧ s'.account = a := by
  cases op with
  | put key value => exact applyPut_account h hn
  | del key =>
    obtain ⟨hsound, hview, hcard, hused⟩ := h.dropKey key
    obtain ⟨hsound', haccount⟩ := hsound.reclaim
    refine .inr ⟨_, _, rfl, rfl, hsound', ?_⟩
    rw [haccount, hview, hcard, hused]
    rfl

end Rows

end Ninlil.Mfdt
