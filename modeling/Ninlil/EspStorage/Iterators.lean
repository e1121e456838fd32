import Ninlil.EspStorage.Transactions

/-!
# Iterators over a run, and what a transaction shows

* `Iterates`, `delivered`: an iterator on the rows it was opened on, followed over a run of calls;
* `Shows`, `IteratorShows`: what the caller of a live transaction sees of its map;
* `transaction_view`: it is the map that its puts and erases made.
-/

namespace Ninlil.EspStorage

open Bytes Pool

variable {μ : Type} {port : Port μ} {s s' : Storage} {m : μ} {token : ℕ} {t : Fin hardMaxTxns}
  {i : Fin hardMaxIters} {c : Client μ}

/-! ### Iterators -/

variable (port)

/-- The row that a call delivers from the iterator at `i`. -/
def deliveredBy (s : Storage) (i : Fin hardMaxIters) (op : Op) : Option Row :=
  match op with
  | .iterNext iter keyCapacity valueCapacity =>
    if resolveIter port s iter = some i then
      (portIterNext port s iter keyCapacity valueCapacity).2.2.1
    else none
  | _ => none

/-- The rows delivered over a run of calls. -/
def delivered (i : Fin hardMaxIters) : Client μ → List Op → List Row
  | _, [] => []
  | c, op :: ops =>
    (deliveredBy port c.storage i op).toList ++ delivered i (c.call port op) ops

variable {port}

/-- An iterator over some rows that has delivered the first of them. -/
structure Iterates (it : Iterator) (rows done : List Row) : Prop where
  position : it.position = done.length
  inOrder : done <+: rows
  entry : ∀ p : ℕ, ((it.rowIndices[p]?).bind fun k => it.snapshot.entries[k]?).map
    (fun entry => (entry.key, it.snapshot.value entry)) = rows[p]?
  inBlob : it.snapshot.InBlob

/-- What the next call on an iterator answers: its status, the two lengths, and the row. -/
def nextAnswer (rows : List Row) (position keyCapacity valueCapacity : ℕ) :
    Status × (ℕ × ℕ) × Option Row :=
  match rows[position]? with
  | none => (.notFound, (0, 0), none)
  | some row =>
    if row.1.length > keyCapacity ∨ row.2.length > valueCapacity then
      (.bufferTooSmall, (row.1.length, row.2.length), none)
    else (.ok, (row.1.length, row.2.length), some row)

variable {rows done : List Row}

/-- A call on a live iterator. -/
theorem Iterates.next (h : Iterates (s.iterators i) rows done)
    (hres : resolveIter port s token = some i)
    (hu : (s.transactions (s.iterators i).transactionIndex).inUse = true)
    (hg : (s.transactions (s.iterators i).transactionIndex).generation =
      (s.iterators i).transactionGeneration) (keyCapacity valueCapacity : ℕ) :
    let r := portIterNext port s token keyCapacity valueCapacity
    (r.1, r.2.1, r.2.2.1) = nextAnswer rows done.length keyCapacity valueCapacity ∧
      Iterates (r.2.2.2.iterators i) rows (done ++ r.2.2.1.toList) := by
  intro r
  have hentry := h.entry done.length
  simp only [r, portIterNext, hres, hu, hg, h.position, nextAnswer]
  rw [if_neg (by simp)]
  cases hget : ((s.iterators i).rowIndices[done.length]?).bind
      fun k => (s.iterators i).snapshot.entries[k]? with
  | none =>
    rw [hget, Option.map_none] at hentry
    rw [← hentry]
    exact ⟨rfl, by simpa using h⟩
  | some entry =>
    rw [hget, Option.map_some] at hentry
    rw [← hentry]
    obtain ⟨k, -, hk⟩ := Option.bind_eq_some_iff.1 hget
    have hlen := h.inBlob.length_value (List.mem_of_getElem? hk)
    dsimp only
    rw [hlen]
    split_ifs
    · exact ⟨rfl, by simpa using h⟩
    · refine ⟨rfl, ?_⟩
      dsimp only
      rw [Function.update_self]
      refine ⟨by simp, ?_, h.entry, h.inBlob⟩
      obtain ⟨hlt, hrow⟩ := List.getElem?_eq_some_iff.1 hentry.symm
      rw [Option.toList_some, List.prefix_iff_eq_take, List.length_append, List.length_singleton,
        List.take_succ_eq_append_getElem hlt, hrow, ← List.prefix_iff_eq_take.1 h.inOrder]

theorem portIterNext_iterators (s : Storage) (token keyCapacity valueCapacity : ℕ)
    (hres : resolveIter port s token ≠ some i) :
    (portIterNext port s token keyCapacity valueCapacity).2.2.2.iterators i = s.iterators i := by
  unfold portIterNext
  split
  · rfl
  · rename_i j hj
    have hne : i ≠ j := fun heq => hres (heq ▸ hj)
    dsimp only
    split_ifs
    · rfl
    · split
      · rfl
      · split_ifs
        · rfl
        · exact Function.update_of_ne hne _ _

theorem portIterOpen_iterators (s : Storage) (token : ℕ) (keyPrefix : List UInt8)
    (hu : (s.iterators i).inUse = true) :
    (portIterOpen port s token keyPrefix).2.2.iterators i = s.iterators i := by
  unfold portIterOpen
  split
  · rfl
  · split_ifs
    · rfl
    · rfl
    · split
      · rfl
      · rename_i j g hf
        have hne : i ≠ j := by
          rintro rfl
          rw [(freeRecord_eq_some hf).1] at hu
          cases hu
        exact Function.update_of_ne hne _ _

theorem keeps_portIterClose (s : Storage) (token : ℕ) : Keeps s (portIterClose port s token) := by
  unfold portIterClose
  split
  · exact .refl s
  · rename_i j _
    refine ⟨fun _ => .inl rfl, fun i => ?_⟩
    dsimp only
    by_cases hi : i = j
    · subst hi
      rw [Function.update_self]
      exact .inr rfl
    · rw [Function.update_of_ne hi]
      exact .inl rfl

/-- What a call does to an iterator that stays in use. -/
theorem Iterates.step (h : Iterates (s.iterators i) rows done) (hd : Discipline s.objects)
    (op : Op) (hu : (s.iterators i).inUse = true)
    (hu' : ((step port s m op).storage.iterators i).inUse = true) :
    Iterates ((EspStorage.step port s m op).storage.iterators i) rows
      (done ++ (deliveredBy port s i op).toList) := by
  have hsame : ∀ {it : Iterator} (o : Option Row), it = s.iterators i → o = none →
      Iterates it rows (done ++ o.toList) := by
    rintro _ _ rfl rfl
    simpa using h
  cases op with
  | iterNext iter keyCapacity valueCapacity =>
    by_cases hres : resolveIter port s iter = some i
    · obtain ⟨htu, htg⟩ := hd.source i hu
      simp only [deliveredBy, if_pos hres]
      exact (h.next hres htu htg keyCapacity valueCapacity).2
    · exact hsame _ (portIterNext_iterators s iter keyCapacity valueCapacity hres) (if_neg hres)
  | iterOpen txn keyPrefix => exact hsame _ (portIterOpen_iterators s txn keyPrefix hu) rfl
  | iterClose iter => exact hsame _ ((keeps_portIterClose s iter).iterator_eq hu') rfl
  | «open» name schema => exact hsame _ ((keeps_portOpen s m name schema).iterator_eq hu') rfl
  | close handle => exact hsame _ ((keeps_portClose s handle).iterator_eq hu') rfl
  | begin handle mode =>
    exact hsame _ (congrFun (@portBegin_pools μ port 0 s m handle mode).1 i) rfl
  | get txn key capacity => exact hsame _ rfl rfl
  | put txn key value =>
    refine hsame _ ?_ rfl
    simp only [EspStorage.step]
    rcases @portPut_cases _ port s txn key value with ⟨-, hs⟩ | ⟨t, view, -, -, -, heq⟩
    · rw [hs]
    · rw [heq]
      rfl
  | erase txn key =>
    refine hsame _ ?_ rfl
    simp only [EspStorage.step]
    rcases @portErase_cases _ port s txn key with ⟨-, hs⟩ | ⟨t, view, -, -, heq⟩
    · rw [hs]
    · rw [heq]
      rfl
  | capacity handle => exact hsame _ rfl rfl
  | commit txn durability =>
    exact hsame _ ((keeps_portCommit s m txn durability).iterator_eq hu') rfl
  | rollback txn => exact hsame _ ((keeps_portRollback s txn).iterator_eq hu') rfl

/-- **An iterator delivers its rows in order** over any run of calls that leaves it live. -/
theorem Iterates.run (h : Iterates (c.storage.iterators i) rows done) (hc : c.Sound port)
    (ops : List Op) (hu : ((c.run port ops).storage.iterators i).inUse = true)
    (heq : ((c.run port ops).storage.iterators i).generation =
      (c.storage.iterators i).generation) :
    Iterates ((c.run port ops).storage.iterators i) rows (done ++ delivered port i c ops) := by
  induction ops generalizing c done with
  | nil => simpa [delivered, Client.run] using h
  | cons op ops ih =>
    have hchange := (@step_effect _ port c.storage c.media op).iter_change
    have hle : (c.storage.iterators i).generation ≤
        ((c.call port op).storage.iterators i).generation := hchange.generation_le i
    obtain ⟨hu0, -⟩ := iter_live_of_run (op :: ops) le_rfl hu heq
    obtain ⟨hu1, heq1⟩ := @iter_live_of_run μ port i (c.call port op) ops _ hle hu heq
    have hstep := h.step hc.discipline op hu0 hu1
    have hrun := ih hstep (hc.call op) hu (heq.trans heq1.symm)
    rwa [List.append_assoc] at hrun

/-! ### Opening -/

/-- The rows of a view whose keys have a prefix. -/
def View.matching (view : View) (keyPrefix : List UInt8) : List Row :=
  view.rows.filter fun row => keyPrefix.isPrefixOf row.1

theorem map_matchingRows (view : View) (keyPrefix : List UInt8) :
    (matchingRows view keyPrefix).map (fun k => view.entries[k]?) =
      (view.entries.filter (prefixMatches keyPrefix)).map some := by
  have hall : (List.range view.entries.length).map (fun k => view.entries[k]?) =
      view.entries.map some := by
    refine List.ext_getElem (by simp) fun k h1 h2 => ?_
    simp
  have hfilter : (view.entries.map some).filter (fun o => o.any (prefixMatches keyPrefix)) =
      (view.entries.filter (prefixMatches keyPrefix)).map some := by
    rw [List.filter_map]
    rfl
  rw [← hfilter, ← hall, List.filter_map]
  rfl

/-- A fresh iterator delivers the matching rows. -/
theorem iterates_matching {view : View} (h : view.InBlob) (keyPrefix : List UInt8)
    {it : Iterator} (hrows : it.rowIndices = matchingRows view keyPrefix)
    (hsnap : it.snapshot = view) (hpos : it.position = 0) :
    Iterates it (view.matching keyPrefix) [] where
  position := hpos
  inOrder := List.nil_prefix
  inBlob := hsnap ▸ h
  entry p := by
    have hget := congrArg (fun l => l[p]?) (map_matchingRows view keyPrefix)
    simp only [List.getElem?_map] at hget
    have hbind : ((matchingRows view keyPrefix)[p]?).bind (fun k => view.entries[k]?) =
        (view.entries.filter (prefixMatches keyPrefix))[p]? := by
      cases hk : (matchingRows view keyPrefix)[p]? with
      | none =>
        rw [hk] at hget
        cases he : (view.entries.filter (prefixMatches keyPrefix))[p]? with
        | none => rfl
        | some entry =>
          rw [he] at hget
          cases hget
      | some k =>
        rw [hk] at hget
        cases he : (view.entries.filter (prefixMatches keyPrefix))[p]? with
        | none =>
          rw [he] at hget
          cases hget
        | some entry =>
          rw [he] at hget
          exact Option.some.inj hget
    rw [hrows, hsnap, hbind, ← List.getElem?_map, View.matching, View.rows, List.filter_map]
    rfl

/-- An iterator that was opened. -/
theorem portIterOpen_some {keyPrefix : List UInt8} {iter : ℕ}
    (ht : resolveTxn port s token = some t)
    (h : (portIterOpen port s token keyPrefix).2.1 = some iter) :
    ∃ (i : Fin hardMaxIters) (g : ℕ), 1 ≤ g ∧
      g ≤ tokenGenerationMaxForBits hardMaxIters port.uintptrBits ∧
      iter = packToken port.uintptrBits i g hardMaxIters ∧
      ((portIterOpen port s token keyPrefix).2.2.iterators i).inUse = true ∧
      ((portIterOpen port s token keyPrefix).2.2.iterators i).generation = g ∧
      ((portIterOpen port s token keyPrefix).2.2.iterators i).position = 0 ∧
      ((portIterOpen port s token keyPrefix).2.2.iterators i).rowIndices =
        matchingRows (s.transactions t).view keyPrefix ∧
      ((portIterOpen port s token keyPrefix).2.2.iterators i).snapshot =
        (s.transactions t).view := by
  unfold portIterOpen at h ⊢
  rw [ht] at h ⊢
  dsimp only at h ⊢
  by_cases hlen : keyPrefix.length > 255
  · rw [if_pos hlen] at h
    cases h
  rw [if_neg hlen] at h ⊢
  by_cases hlive : liveIters s ≥ s.config.maxLiveIters
  · rw [if_pos hlive] at h
    cases h
  rw [if_neg hlive] at h ⊢
  cases hf : freeRecord port hardMaxIters (fun i => (s.iterators i).inUse)
      (fun i => (s.iterators i).generation) with
  | none =>
    rw [hf] at h
    cases h
  | some p =>
    obtain ⟨i, g⟩ := p
    rw [hf] at h
    obtain ⟨-, hmax, rfl⟩ := freeRecord_eq_some hf
    refine ⟨i, (s.iterators i).generation + 1, by omega, hmax, (Option.some.inj h).symm, ?_⟩
    dsimp only
    rw [Function.update_self]
    exact ⟨rfl, rfl, rfl, rfl, rfl⟩

/-! ### What a transaction shows -/

/-- What `port_get` answers for a value: the status, the length, the bytes it copies. -/
def getAnswer (capacity : ℕ) : Option (List UInt8) → Status × ℕ × List UInt8
  | none => (.notFound, 0, [])
  | some value =>
    if value.length > capacity then (.bufferTooSmall, value.length, [])
    else (.ok, value.length, value)

/-- What a live transaction shows of its map. -/
structure Shows (port : Port μ) (s : Storage) (token : ℕ) (t : Fin hardMaxTxns)
    (map : KeyMap) : Prop where
  increase : KeysIncrease (s.transactions t).view.entries
  used : (s.transactions t).view.usedLogicalBytes =
    ((s.transactions t).view.entries.map fun entry =>
      16 + entry.key.length + entry.valueLength).sum
  ranges : ∀ entry ∈ (s.transactions t).view.entries,
    entry.valueOffset + entry.valueLength ≤ (s.transactions t).view.valueBlob.length
  get : ∀ key capacity, 1 ≤ key.length → key.length ≤ 255 →
    portGet port s token key capacity = getAnswer capacity (map key)
  put_fails : ∀ key value, (portPut port s token key value).1 ≠ .ok →
    (portPut port s token key value).2 = s
  erases : (s.transactions t).mode = .readWrite → ∀ key, 1 ≤ key.length → key.length ≤ 255 →
    (portErase port s token key).1 = .ok

theorem Represents.shows {map : KeyMap} (h : Represents (s.transactions t).view map)
    (hres : resolveTxn port s token = some t) : Shows port s token t map where
  increase := View.rowsIncrease_iff.1 h.staged.ok.increase
  used := h.staged.ok.used
  ranges := h.staged.ranges
  get key capacity h1 h2 := by
    have hfind := @findEntry_map _ key h.staged.ok.increase
    rw [h.lookup] at hfind
    unfold portGet
    rw [hres]
    dsimp only
    rw [if_neg (by omega)]
    cases hf : findEntry (s.transactions t).view key with
    | none =>
      rw [hf, Option.map_none] at hfind
      rw [← hfind]
      rfl
    | some entry =>
      rw [hf, Option.map_some] at hfind
      rw [← hfind]
      have hmem : entry ∈ (s.transactions t).view.entries := by
        unfold findEntry at hf
        exact List.mem_of_getElem? (Option.filter_eq_some_iff.1 hf).1
      dsimp only [getAnswer]
      rw [h.staged.ok.inBlob.length_value hmem]
  put_fails key value hst := by
    rcases @portPut_cases _ port s token key value with ⟨-, hs⟩ | ⟨_, _, _, _, _, heq⟩
    · exact hs
    · rw [heq] at hst
      exact absurd rfl hst
  erases hmode key h1 h2 := by
    unfold portErase
    rw [hres]
    dsimp only
    have hgood : ¬(Mode.readWrite ≠ Mode.readWrite ∨ key.length < 1 ∨ key.length > 255) := by
      rintro (hm | hm | hm)
      · exact hm rfl
      · omega
      · omega
    rw [hmode, if_neg hgood]
    cases he : rebuildViewWithoutKey (s.transactions t).view key with
    | none => exact absurd he (h.staged.erase_ne_none key)
    | some view => rfl

theorem selectContent_valid {d0 d1 : Decoded (UInt64 × View)} {view : View} {gen : UInt64}
    {slot : Fin 2} (h : selectContent d0 d1 = some (view, gen, slot)) :
    d0 = .valid (gen, view) ∨ d1 = .valid (gen, view) := by
  unfold selectContent at h
  split at h
  · split_ifs at h
    · cases h
      exact .inl rfl
    · cases h
      exact .inr rfl
  · cases h
    exact .inl rfl
  · cases h
    exact .inr rfl
  · cases h

theorem atLeastSeed_valid {seed : UInt64} {d : Decoded (UInt64 × View)} {r : UInt64 × View}
    (h : atLeastSeed seed d = .valid r) : d = .valid r := by
  cases d with
  | valid r' =>
    obtain ⟨generation, view⟩ := r'
    dsimp only [atLeastSeed] at h
    split_ifs at h
    exact h
  | empty | corrupt => cases h

/-- The content of a namespace is a decoded view. -/
theorem loadNamespaceContent_rows {m' : μ} {k : Fin hardMaxNamespaces} {view : View}
    {gen : UInt64} {slot : Fin 2}
    (h : loadNamespaceContent port s m k = (some (view, gen, slot), m')) :
    ∃ rows, Storable rows ∧ view = View.ofRows rows := by
  have hdecoded : ∀ {image : List UInt8},
      atLeastSeed (s.directory.entries k).dataSeedGeneration
        (decodeSlot image (s.directory.entries k).schema (some (s.directory.entries k).name)) =
          .valid (gen, view) → ∃ rows, Storable rows ∧ view = View.ofRows rows := by
    intro image hd
    obtain ⟨-, rows, -, hrows, -, -, -, -, -, hview⟩ := decodeSlot_valid (atLeastSeed_valid hd)
    exact ⟨rows, hrows, hview⟩
  unfold loadNamespaceContent at h
  dsimp only at h
  split at h
  · cases h
  · split at h
    · cases h
    · rcases selectContent_valid (Prod.mk.inj h).1 with hd | hd
      · exact hdecoded hd
      · exact hdecoded hd

/-- A transaction that was begun. -/
theorem portBegin_some {handle : ℕ} {mode : Mode}
    (h : (portBegin port s m handle mode).token = some token) :
    ∃ (t : Fin hardMaxTxns) (g : ℕ) (rows : List Row), 1 ≤ g ∧
      g ≤ tokenGenerationMaxForBits hardMaxTxns port.uintptrBits ∧
      token = packToken port.uintptrBits t g hardMaxTxns ∧
      ((portBegin port s m handle mode).storage.transactions t).inUse = true ∧
      ((portBegin port s m handle mode).storage.transactions t).generation = g ∧
      ((portBegin port s m handle mode).storage.transactions t).mode = mode ∧
      ((portBegin port s m handle mode).storage.transactions t).view = View.ofRows rows ∧
      Storable rows := by
  unfold portBegin at h ⊢
  cases hres : resolveHandle port s handle with
  | none =>
    rw [hres] at h
    cases h
  | some hd =>
    rw [hres] at h
    dsimp only at h ⊢
    by_cases h1 : mode ≠ .readOnly ∧ mode ≠ .readWrite
    · rw [if_pos h1] at h
      cases h
    rw [if_neg h1] at h ⊢
    by_cases h2 : mode = .readWrite ∧ (s.handles hd).hasWriter = true
    · rw [if_pos h2] at h
      cases h
    rw [if_neg h2] at h ⊢
    by_cases h3 : liveTxns s ≥ s.config.maxLiveTxns
    · rw [if_pos h3] at h
      cases h
    rw [if_neg h3] at h ⊢
    cases hf : freeRecord port hardMaxTxns (fun t => (s.transactions t).inUse)
        (fun t => (s.transactions t).generation) with
    | none =>
      rw [hf] at h
      cases h
    | some p =>
      obtain ⟨t, g⟩ := p
      rw [hf] at h
      dsimp only at h ⊢
      obtain ⟨-, hmax, rfl⟩ := freeRecord_eq_some hf
      rcases hl : loadNamespaceContent port s m (s.handles hd).namespaceIndex with
        ⟨_ | ⟨view, gen, slot⟩, m'⟩
      · rw [hl] at h
        cases h
      · rw [hl] at h
        obtain ⟨rows, hrows, hview⟩ := loadNamespaceContent_rows hl
        refine ⟨t, (s.transactions t).generation + 1, rows, by omega, hmax,
          (Option.some.inj h).symm, ?_⟩
        simp only [startTransaction, Function.update_self]
        exact ⟨trivial, trivial, trivial, hview, hrows⟩

/-! ### The whole run -/

theorem resolveTxn_packToken {g : ℕ} (h1 : 1 ≤ g)
    (hg : g ≤ tokenGenerationMaxForBits hardMaxTxns port.uintptrBits) {t' : Fin hardMaxTxns} :
    resolveTxn port s (packToken port.uintptrBits t g hardMaxTxns) = some t' ↔
      t' = t ∧ (s.transactions t).inUse = true ∧ (s.transactions t).generation = g := by
  rw [resolveTxn_eq]
  exact resolve_pack_iff (c := txnCoding port.uintptrBits) h1 hg

theorem resolveIter_packToken {g : ℕ} (h1 : 1 ≤ g)
    (hg : g ≤ tokenGenerationMaxForBits hardMaxIters port.uintptrBits) {i' : Fin hardMaxIters} :
    resolveIter port s (packToken port.uintptrBits i g hardMaxIters) = some i' ↔
      i' = i ∧ (s.iterators i).inUse = true ∧ (s.iterators i).generation = g := by
  rw [resolveIter_eq]
  exact resolve_pack_iff (c := iterCoding port.uintptrBits) h1 hg

/-- What an iterator enumerates: the rows of a map whose keys have a prefix, in key order. -/
structure Enumerates (rows : List Row) (keyPrefix : List UInt8) (map : KeyMap) : Prop where
  increase : RowsIncrease rows
  mem : ∀ key value, (key, value) ∈ rows ↔ keyPrefix <+: key ∧ map key = some value

theorem Represents.enumerates {view : View} {map : KeyMap} (h : Represents view map)
    (keyPrefix : List UInt8) : Enumerates (view.matching keyPrefix) keyPrefix map where
  increase := rowsIncrease_iff_pairwise.2
    ((rowsIncrease_iff_pairwise.1 h.staged.ok.increase).filter _)
  mem key value := by
    rw [View.matching, List.mem_filter, List.isPrefixOf_iff_prefix, ← h.lookup,
      (sorted_iff.2 h.staged.ok.increase).lookup_eq_some_iff, and_comm]

/-- What the iterator opened by a call shows over every run after it. -/
def IteratorShows (port : Port μ) (c : Client μ) (token : ℕ) (map : KeyMap) : Prop :=
  ∀ keyPrefix iter, (portIterOpen port c.storage token keyPrefix).2.1 = some iter →
    ∃ i rows, Enumerates rows keyPrefix map ∧ ∀ ops,
      let opened := c.call port (.iterOpen token keyPrefix)
      let later := opened.run port ops
      resolveIter port later.storage iter = some i →
        delivered port i opened ops <+: rows ∧
          ∀ keyCapacity valueCapacity,
            let r := portIterNext port later.storage iter keyCapacity valueCapacity
            (r.1, r.2.1, r.2.2.1) =
              nextAnswer rows (delivered port i opened ops).length keyCapacity valueCapacity

theorem Represents.iteratorShows {map : KeyMap}
    (h : Represents (c.storage.transactions t).view map) (hc : c.Sound port)
    (hres : resolveTxn port c.storage token = some t) : IteratorShows port c token map := by
  intro keyPrefix iter hopen
  obtain ⟨i, g, h1, hg, rfl, hu, hgen, hpos, hrows, hsnap⟩ := portIterOpen_some hres hopen
  refine ⟨i, (c.storage.transactions t).view.matching keyPrefix, h.enumerates keyPrefix,
    fun ops => ?_⟩
  intro opened later hlive
  obtain ⟨-, hlu, hlg⟩ := (resolveIter_packToken h1 hg).1 hlive
  have hopened : Iterates (opened.storage.iterators i)
      ((c.storage.transactions t).view.matching keyPrefix) [] :=
    iterates_matching h.staged.ok.inBlob keyPrefix hrows hsnap hpos
  have hsound : opened.Sound port := hc.call _
  have hrun := hopened.run hsound ops hlu (hlg.trans hgen.symm)
  rw [List.nil_append] at hrun
  refine ⟨hrun.inOrder, fun keyCapacity valueCapacity => ?_⟩
  obtain ⟨htu, htg⟩ := (hsound.run ops).discipline.source i hlu
  exact (hrun.next hlive htu htg keyCapacity valueCapacity).1

/-- **The view of a transaction is a sorted map.**  In every state reached from an initialized
storage over any medium, a transaction that is begun starts from a decoded view; after every run of
calls that leaves it live it shows the map that its puts and erases made of that view, through
`port_get` and through every iterator; and the view is determined by the map, up to the offsets of
empty values. -/
theorem transaction_view {config : Config} {policy : FullPolicy} {m m' : μ} {s : Storage}
    (hinit : privateInit port config policy m = (some s, m')) (before : List Op) (handle : ℕ)
    (mode : Mode) (token : ℕ)
    (hbegin : (step port ((Client.start s m').run port before).storage
      ((Client.start s m').run port before).media (.begin handle mode)).token = some token) :
    let c := ((Client.start s m').run port before).call port (.begin handle mode)
    ∃ (t : Fin hardMaxTxns) (rows : List Row), Storable rows ∧
      (c.storage.transactions t).view = View.ofRows rows ∧
      (c.storage.transactions t).mode = mode ∧
      resolveTxn port c.storage token = some t ∧
      (∀ ops, resolveTxn port (c.run port ops).storage token = some t →
        Shows port (c.run port ops).storage token t
            (stagedMap port t c ops fun key => rows.lookup key) ∧
          IteratorShows port (c.run port ops) token
            (stagedMap port t c ops fun key => rows.lookup key)) ∧
      ∀ ops ops', resolveTxn port (c.run port ops).storage token = some t →
        resolveTxn port (c.run port ops').storage token = some t →
        stagedMap port t c ops (fun key => rows.lookup key) =
          stagedMap port t c ops' (fun key => rows.lookup key) →
        ((c.run port ops).storage.transactions t).view.shape =
          ((c.run port ops').storage.transactions t).view.shape := by
  intro c
  obtain ⟨t, g, rows, h1, hg, rfl, hu, hgen, hmode, hview, hrows⟩ := portBegin_some hbegin
  have hsound : c.Sound port := ((Client.sound_privateInit hinit).run before).call _
  have hrep : Represents (c.storage.transactions t).view fun key => rows.lookup key := by
    refine ⟨?_, fun key => ?_⟩
    · rw [show (c.storage.transactions t).view = View.ofRows rows from hview]
      exact staged_ofRows hrows
    · rw [show (c.storage.transactions t).view = View.ofRows rows from hview, View.rows_ofRows]
  have hrun : ∀ ops, resolveTxn port (c.run port ops).storage
      (packToken port.uintptrBits t g hardMaxTxns) = some t →
      Represents ((c.run port ops).storage.transactions t).view
        (stagedMap port t c ops fun key => rows.lookup key) := by
    intro ops hlive
    obtain ⟨-, hlu, hlg⟩ := (resolveTxn_packToken h1 hg).1 hlive
    exact (hrep.run ops hlu (hlg.trans hgen.symm)).1
  refine ⟨t, rows, hrows, hview, hmode, (resolveTxn_packToken h1 hg).2 ⟨rfl, hu, hgen⟩,
    fun ops hlive => ⟨(hrun ops hlive).shows hlive, ?_⟩, fun ops ops' hlive hlive' heq => ?_⟩
  · exact (hrun ops hlive).iteratorShows (hsound.run ops) hlive
  · exact (hrun ops hlive).shape_eq (heq ▸ hrun ops' hlive')

/-! ### A decoded view and a rebuilt one -/

/-- A row with a value and a row without. -/
def sampleRows : List Row := [([97], [1]), ([98], [])]

theorem storable_sampleRows : Storable sampleRows where
  row := by simp [sampleRows, RowOk, maxStorageValueBytes]
  increase := by
    unfold RowsIncrease
    decide
  count := by decide
  bytes := by decide

/-- Putting a value that is there already leaves the map of a decoded view, and clears the offset
of its empty value. -/
theorem put_clears_offset_of_empty_value :
    ∃ image view view', decodeSlot image 1 (some [65]) = .valid (1, view) ∧
      rebuildViewWithPut view [97] [1] = some view' ∧ view'.rows = view.rows ∧ view' ≠ view :=
  ⟨_, View.ofRows sampleRows, View.build sampleRows,
    @decodeSlot_slotImage sampleRows 1 1 [65] storable_sampleRows (by decide) (by decide)
      (by decide) (some [65]) (by simp), by decide, by decide, by decide⟩

/-! ### A run -/

/-- The transaction of that run is a sorted map after any further calls. -/
theorem transaction_view_blockPort :
    let c := ((Client.start bootStorage erasedBlocks).run blockPort
      [.open [65] schemaM1a]).call blockPort (.begin 9 .readWrite)
    ∃ t, resolveTxn blockPort c.storage 5 = some t ∧
      ∀ ops, resolveTxn blockPort (c.run blockPort ops).storage 5 = some t →
        ∃ map, Shows blockPort (c.run blockPort ops).storage 5 t map ∧
          IteratorShows blockPort (c.run blockPort ops) 5 map := by
  intro c
  obtain ⟨t, rows, -, -, -, hres, hshows, -⟩ :=
    transaction_view privateInit_blockPort [.open [65] schemaM1a] 9 .readWrite 5 begin_blockPort
  exact ⟨t, hres, fun ops hlive => ⟨_, hshows ops hlive⟩⟩

end Ninlil.EspStorage
