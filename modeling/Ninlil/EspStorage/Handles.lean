import Ninlil.EspStorage.DirectoryFormat
import Ninlil.EspStorage.Model
import Ninlil.EspStorage.SlotFormat
import Ninlil.Lib.Pool

/-!
# Handles, transactions and iterators

The three pools of the storage port and what ties them together.

* `tokenCoding`: the tokens of the port are faithful up to the last generation;
* `Discipline`: leases follow handles, writer flags follow writers, owners are live;
* `Effect`, `step_effect`: what one call can do to the objects, whatever the medium answers;
* `Client`, `run`: any sequence of calls, with the objects and tokens made on the way;
* `handle_discipline`: the discipline and the meaning of every token, in every reachable state.
-/

namespace Ninlil.EspStorage

open Pool
open Function (update update_of_ne update_self update_eq_self)

/-! ### Tokens -/

theorem lt_two_pow_tokenIndexBits {n : ℕ} (i : Fin n) : i.val + 1 < 2 ^ tokenIndexBits n := by
  have hn : n ≠ 0 := by
    have := i.isLt
    omega
  unfold tokenIndexBits
  rw [if_neg hn]
  exact lt_of_le_of_lt i.isLt Nat.lt_log2_self

theorem tokenGenerationMaxForBits_lt (n w : ℕ) : tokenGenerationMaxForBits n w < 2 ^ 32 := by
  unfold tokenGenerationMaxForBits
  dsimp only
  split_ifs with h1 h2
  · norm_num
  · norm_num
  · have : 2 ^ (w - tokenIndexBits n) < 2 ^ 32 := Nat.pow_lt_pow_right (by norm_num) (by omega)
    omega

/-- A generation within the maximum fits above the index bits. -/
theorem shift_lt_of_le_max {n w g : ℕ} (h1 : 1 ≤ g) (hg : g ≤ tokenGenerationMaxForBits n w) :
    (g + 1) * 2 ^ tokenIndexBits n ≤ 2 ^ w := by
  have hmax : g < 2 ^ (w - tokenIndexBits n) ∧ tokenIndexBits n ≤ w := by
    unfold tokenGenerationMaxForBits at hg
    dsimp only at hg
    split_ifs at hg with h1 h2
    · omega
    · have : 2 ^ 32 ≤ 2 ^ (w - tokenIndexBits n) := Nat.pow_le_pow_right (by norm_num) h2
      omega
    · have : 0 < 2 ^ (w - tokenIndexBits n) := Nat.two_pow_pos _
      omega
  calc (g + 1) * 2 ^ tokenIndexBits n
      ≤ 2 ^ (w - tokenIndexBits n) * 2 ^ tokenIndexBits n := Nat.mul_le_mul_right _ hmax.1
    _ = 2 ^ w := by rw [← pow_add, Nat.sub_add_cancel hmax.2]

theorem packToken_eq {n w g : ℕ} (i : Fin n) (h1 : 1 ≤ g)
    (hg : g ≤ tokenGenerationMaxForBits n w) :
    packToken w i g n = g * 2 ^ tokenIndexBits n + (i.val + 1) := by
  have hi := lt_two_pow_tokenIndexBits i
  have hw := shift_lt_of_le_max h1 hg
  unfold packToken
  rw [← Nat.shiftLeft_add_eq_or_of_lt hi, Nat.shiftLeft_eq, Nat.mod_eq_of_lt]
  calc g * 2 ^ tokenIndexBits n + (i.val + 1)
      < g * 2 ^ tokenIndexBits n + 2 ^ tokenIndexBits n := by omega
    _ = (g + 1) * 2 ^ tokenIndexBits n := (Nat.succ_mul _ _).symm
    _ ≤ 2 ^ w := hw

theorem unpackToken_packToken {n w g : ℕ} (hn : n < 2 ^ 32) (i : Fin n) (h1 : 1 ≤ g)
    (hg : g ≤ tokenGenerationMaxForBits n w) :
    unpackToken w (packToken w i g n) n = some (i, g) := by
  have hi := lt_two_pow_tokenIndexBits i
  have hlt := i.isLt
  have hidx : ((g * 2 ^ tokenIndexBits n + (i.val + 1)) &&& (2 ^ tokenIndexBits n - 1)) % 2 ^ 32
      = i.val + 1 := by
    rw [Nat.and_two_pow_sub_one_eq_mod, Nat.mul_add_mod',
      Nat.mod_eq_of_lt hi, Nat.mod_eq_of_lt (by omega)]
  have hgen : ((g * 2 ^ tokenIndexBits n + (i.val + 1)) >>> tokenIndexBits n) % 2 ^ 32 = g := by
    rw [Nat.shiftRight_eq_div_pow, Nat.mul_comm, Nat.mul_add_div (Nat.two_pow_pos _),
      Nat.div_eq_of_lt hi, Nat.add_zero,
      Nat.mod_eq_of_lt (lt_of_le_of_lt hg (tokenGenerationMaxForBits_lt n w))]
  unfold unpackToken
  rw [packToken_eq i h1 hg, if_neg (by omega)]
  dsimp only
  simp only [hidx, hgen]
  rw [dif_pos (by omega), if_pos (by omega)]
  rfl

/-- The tokens of a pool of `n` records on a platform of any width. -/
def tokenCoding (w n : ℕ) (hn : n < 2 ^ 32) : Coding n where
  limit := tokenGenerationMaxForBits n w
  pack := fun i g => packToken w i g n
  unpack := fun token => unpackToken w token n
  unpack_pack := fun i _ h1 hg => unpackToken_packToken hn i h1 hg

theorem tokenNextGenerationForBits_eq_some {current n w g : ℕ} :
    tokenNextGenerationForBits current n w = some g
      ↔ current + 1 ≤ tokenGenerationMaxForBits n w ∧ g = current + 1 := by
  unfold tokenNextGenerationForBits
  dsimp only
  split_ifs with h
  · simp only [false_iff]
    omega
  · simp only [Option.some.injEq]
    omega

variable {μ : Type} {port : Port μ}

/-- The record taken is free, and its generation moves on by one. -/
theorem freeRecord_eq_some {n : ℕ} {inUse : Fin n → Bool} {generation : Fin n → ℕ} {i : Fin n}
    {g : ℕ} (h : freeRecord port n inUse generation = some (i, g)) :
    inUse i = false ∧ generation i + 1 ≤ tokenGenerationMaxForBits n port.uintptrBits
      ∧ g = generation i + 1 := by
  unfold freeRecord at h
  obtain ⟨j, -, hj⟩ := List.exists_of_findSome?_eq_some h
  split_ifs at hj with hu
  obtain ⟨g', hg', heq⟩ := Option.map_eq_some_iff.1 hj
  obtain ⟨rfl, rfl⟩ := Prod.mk.inj heq
  obtain ⟨hmax, rfl⟩ := tokenNextGenerationForBits_eq_some.1 hg'
  exact ⟨by simpa using hu, hmax, rfl⟩

/-- No free record is left that could be taken once more. -/
def Exhausted (w : ℕ) {n : ℕ} (r : Fin n → Record) : Prop :=
  ∀ i, (r i).inUse = true ∨ tokenGenerationMaxForBits n w ≤ (r i).generation

/-! ### Objects -/

/-- The objects of a storage: its pools and the lease marks. -/
@[ext]
structure Objects where
  handles : Fin hardMaxNamespaces → Handle
  transactions : Fin hardMaxTxns → Transaction
  iterators : Fin hardMaxIters → Iterator
  leased : Fin hardMaxNamespaces → Bool

def Storage.objects (s : Storage) : Objects where
  handles := s.handles
  transactions := s.transactions
  iterators := s.iterators
  leased := fun i => (s.namespaces i).leased

namespace Objects

def handleRecords (o : Objects) : Fin hardMaxNamespaces → Record :=
  fun h => ⟨(o.handles h).inUse, (o.handles h).generation⟩

def txnRecords (o : Objects) : Fin hardMaxTxns → Record :=
  fun t => ⟨(o.transactions t).inUse, (o.transactions t).generation⟩

def iterRecords (o : Objects) : Fin hardMaxIters → Record :=
  fun i => ⟨(o.iterators i).inUse, (o.iterators i).generation⟩

/-- A live read-write transaction on a handle. -/
def Writes (o : Objects) (t : Fin hardMaxTxns) (h : Fin hardMaxNamespaces) : Prop :=
  (o.transactions t).inUse = true ∧ (o.transactions t).mode = .readWrite
    ∧ (o.transactions t).handleIndex = h

/-- `consume_txn`. -/
def consume (o : Objects) (t : Fin hardMaxTxns) : Objects :=
  let txn := o.transactions t
  let handle := o.handles txn.handleIndex
  { o with
    handles :=
      if txn.mode = .readWrite ∧ handle.inUse = true
          ∧ handle.generation = txn.handleGeneration then
        update o.handles txn.handleIndex { handle with hasWriter := false }
      else o.handles
    transactions := update o.transactions t { generation := txn.generation }
    iterators := fun i =>
      let it := o.iterators i
      if it.inUse = true ∧ it.transactionIndex = t ∧ it.transactionGeneration = txn.generation then
        { generation := it.generation }
      else it }

/-- The record of a handle that is closed. -/
def release (o : Objects) (h : Fin hardMaxNamespaces) : Objects :=
  { o with
    handles := update o.handles h { generation := (o.handles h).generation }
    leased := update o.leased (o.handles h).namespaceIndex false }

end Objects

/-- The discipline of the pools. -/
structure Discipline (o : Objects) : Prop where
  /-- A namespace is leased exactly when a live handle is on it. -/
  lease : ∀ i, o.leased i = true
    ↔ ∃ h, (o.handles h).inUse = true ∧ (o.handles h).namespaceIndex = i
  /-- At most one live handle is on a namespace. -/
  handle_unique : ∀ h h', (o.handles h).inUse = true → (o.handles h').inUse = true →
    (o.handles h).namespaceIndex = (o.handles h').namespaceIndex → h = h'
  /-- The writer flag of a live handle is set exactly when it has a live writer. -/
  writer : ∀ h, (o.handles h).inUse = true →
    ((o.handles h).hasWriter = true ↔ ∃ t, o.Writes t h)
  /-- A handle has at most one live writer. -/
  writer_unique : ∀ h t t', o.Writes t h → o.Writes t' h → t = t'
  /-- A live transaction belongs to a live handle, of the generation it recorded. -/
  owner : ∀ t, (o.transactions t).inUse = true →
    (o.handles (o.transactions t).handleIndex).inUse = true
      ∧ (o.handles (o.transactions t).handleIndex).generation
        = (o.transactions t).handleGeneration
      ∧ (o.handles (o.transactions t).handleIndex).namespaceIndex = (o.transactions t).nsIndex
  /-- A live iterator belongs to a live transaction, of the generation it recorded. -/
  source : ∀ i, (o.iterators i).inUse = true →
    (o.transactions (o.iterators i).transactionIndex).inUse = true
      ∧ (o.transactions (o.iterators i).transactionIndex).generation
        = (o.iterators i).transactionGeneration

/-- Nothing was opened yet. -/
theorem discipline_initial (namespaces : Fin hardMaxNamespaces → NamespaceCache)
    (h : ∀ i, (namespaces i).leased = false) :
    Discipline ⟨fun _ => {}, fun _ => {}, fun _ => {}, fun i => (namespaces i).leased⟩ where
  lease := fun i => by simp [h i]
  handle_unique := fun _ _ hu => absurd hu (by simp)
  writer := fun _ hu => absurd hu (by simp)
  writer_unique := fun _ _ _ hw => absurd hw.1 (by simp)
  owner := fun _ hu => absurd hu (by simp)
  source := fun _ hu => absurd hu (by simp)

variable {o : Objects} {t t' : Fin hardMaxTxns}

namespace Objects

/-! ### Consuming a transaction -/

theorem consume_transactions_of_ne (h : t' ≠ t) :
    (o.consume t).transactions t' = o.transactions t' := update_of_ne h _ _

theorem consume_transactions_self (o : Objects) (t : Fin hardMaxTxns) :
    (o.consume t).transactions t = { generation := (o.transactions t).generation } :=
  update_self ..

/-- Consuming a transaction leaves every handle, up to its writer flag. -/
theorem consume_handles (o : Objects) (t : Fin hardMaxTxns) (h : Fin hardMaxNamespaces) :
    ((o.consume t).handles h).inUse = (o.handles h).inUse
      ∧ ((o.consume t).handles h).generation = (o.handles h).generation
      ∧ ((o.consume t).handles h).namespaceIndex = (o.handles h).namespaceIndex := by
  simp only [consume]
  split_ifs
  · by_cases hh : h = (o.transactions t).handleIndex
    · subst hh
      simp
    · simp [update_of_ne hh]
  · simp

theorem consume_hasWriter_of_ne {h : Fin hardMaxNamespaces}
    (hh : ¬((o.transactions t).mode = .readWrite ∧ (o.transactions t).handleIndex = h)) :
    ((o.consume t).handles h).hasWriter = (o.handles h).hasWriter := by
  simp only [consume]
  split_ifs with hc
  · rw [update_of_ne (fun heq => hh ⟨hc.1, heq.symm⟩)]
  · rfl

theorem consume_writes_iff {h : Fin hardMaxNamespaces} :
    (o.consume t).Writes t' h ↔ t' ≠ t ∧ o.Writes t' h := by
  by_cases ht : t' = t
  · subst ht
    simp [Writes, consume_transactions_self]
  · simp [Writes, consume_transactions_of_ne ht, ht]

/-- An iterator that is still live after a transaction was consumed is unchanged, and belongs to
another transaction. -/
theorem consume_iterators (ho : Discipline o)
    {i : Fin hardMaxIters} (hi : ((o.consume t).iterators i).inUse = true) :
    (o.consume t).iterators i = o.iterators i ∧ (o.iterators i).transactionIndex ≠ t := by
  simp only [consume] at hi ⊢
  split_ifs at hi ⊢ with hc
  refine ⟨rfl, fun heq => hc ⟨hi, heq, ?_⟩⟩
  have hsrc := (ho.source i hi).2
  rw [heq] at hsrc
  exact hsrc.symm

end Objects

open Objects

theorem Discipline.consume (ho : Discipline o)
    (ht : (o.transactions t).inUse = true) : Discipline (o.consume t) where
  lease := fun i => by
    rw [show (o.consume t).leased = o.leased from rfl, ho.lease i]
    refine exists_congr fun h => ?_
    rw [(consume_handles o t h).1, (consume_handles o t h).2.2]
  handle_unique := fun h h' hu hu' heq => by
    rw [(consume_handles o t h).1] at hu
    rw [(consume_handles o t h').1] at hu'
    rw [(consume_handles o t h).2.2, (consume_handles o t h').2.2] at heq
    exact ho.handle_unique h h' hu hu' heq
  writer := fun h hu => by
    rw [(consume_handles o t h).1] at hu
    simp only [consume_writes_iff]
    by_cases hh : (o.transactions t).mode = .readWrite ∧ (o.transactions t).handleIndex = h
    · -- the only writer of this handle is gone, and its flag with it
      have hw : o.Writes t h := ⟨ht, hh⟩
      have hflag : ((o.consume t).handles h).hasWriter = false := by
        obtain ⟨hm, rfl⟩ := hh
        have hown := ho.owner t ht
        simp [Objects.consume, hm, hown.1, hown.2.1]
      rw [hflag]
      simp only [Bool.false_eq_true, false_iff, not_exists]
      rintro t' ⟨hne, hw'⟩
      exact hne (ho.writer_unique h t' t hw' hw)
    · rw [consume_hasWriter_of_ne hh, ho.writer h hu]
      refine exists_congr fun t' => ⟨fun hw => ⟨?_, hw⟩, fun hw => hw.2⟩
      rintro rfl
      exact hh hw.2
  writer_unique := fun h t₁ t₂ hw hw' =>
    ho.writer_unique h t₁ t₂ (consume_writes_iff.1 hw).2 (consume_writes_iff.1 hw').2
  owner := fun t' hu => by
    have hne : t' ≠ t := by
      rintro rfl
      rw [consume_transactions_self] at hu
      cases hu
    rw [consume_transactions_of_ne hne] at hu ⊢
    rw [(consume_handles o t _).1, (consume_handles o t _).2.1, (consume_handles o t _).2.2]
    exact ho.owner t' hu
  source := fun i hu => by
    obtain ⟨heq, hne⟩ := consume_iterators ho hu
    rw [heq] at hu ⊢
    rw [consume_transactions_of_ne hne]
    exact ho.source i hu

/-- Closing a handle on which no live transaction is left. -/
theorem Discipline.release (ho : Discipline o) {h : Fin hardMaxNamespaces}
    (hh : (o.handles h).inUse = true)
    (hfree : ∀ t, (o.transactions t).inUse = true → (o.transactions t).handleIndex ≠ h) :
    Discipline (o.release h) where
  lease := fun i => by
    simp only [Objects.release]
    by_cases hi : i = (o.handles h).namespaceIndex
    · subst hi
      rw [update_self]
      simp only [Bool.false_eq_true, false_iff, not_exists, not_and]
      intro h' hu heq
      by_cases hne : h' = h
      · subst hne
        simp at hu
      · rw [update_of_ne hne] at hu heq
        exact hne (ho.handle_unique h' h hu hh heq)
    · rw [update_of_ne hi, ho.lease i]
      refine exists_congr fun h' => ?_
      by_cases hne : h' = h
      · subst hne
        simp [Ne.symm hi]
      · rw [update_of_ne hne]
  handle_unique := fun h₁ h₂ hu hu' heq => by
    simp only [Objects.release] at hu hu' heq
    have hne₁ : h₁ ≠ h := by
      rintro rfl
      simp at hu
    have hne₂ : h₂ ≠ h := by
      rintro rfl
      simp at hu'
    rw [update_of_ne hne₁] at hu heq
    rw [update_of_ne hne₂] at hu' heq
    exact ho.handle_unique h₁ h₂ hu hu' heq
  writer := fun h' hu => by
    simp only [Objects.release] at hu ⊢
    have hne : h' ≠ h := by
      rintro rfl
      simp at hu
    rw [update_of_ne hne] at hu ⊢
    exact ho.writer h' hu
  writer_unique := ho.writer_unique
  owner := fun t hu => by
    have hne := hfree t hu
    simp only [Objects.release]
    rw [update_of_ne hne]
    exact ho.owner t hu
  source := ho.source

/-! ### Closing a handle -/

namespace Objects

/-- A live transaction of the handle at this generation. -/
def Belongs (o : Objects) (h : Fin hardMaxNamespaces) (g : ℕ) (t : Fin hardMaxTxns) : Prop :=
  (o.transactions t).inUse = true ∧ (o.transactions t).handleIndex = h
    ∧ (o.transactions t).handleGeneration = g

instance (o : Objects) (h : Fin hardMaxNamespaces) (g : ℕ) (t : Fin hardMaxTxns) :
    Decidable (o.Belongs h g t) := inferInstanceAs (Decidable (_ ∧ _))

/-- The loop of `port_close` over the transactions of a list. -/
def consumeAll (h : Fin hardMaxNamespaces) (g : ℕ) (l : List (Fin hardMaxTxns)) (o : Objects) :
    Objects :=
  l.foldl (fun o t => if o.Belongs h g t then o.consume t else o) o

def closed (o : Objects) (h : Fin hardMaxNamespaces) : Objects :=
  (consumeAll h (o.handles h).generation (List.finRange hardMaxTxns) o).release h

theorem not_belongs_consume {h : Fin hardMaxNamespaces} {g : ℕ}
    (ht : t' = t ∨ ¬o.Belongs h g t') :
    ¬(o.consume t).Belongs h g t' := by
  by_cases heq : t' = t
  · subst heq
    simp [Belongs, consume_transactions_self]
  · unfold Belongs
    rw [consume_transactions_of_ne heq]
    exact ht.resolve_left heq

/-- A rule for the loop: what every consumed transaction keeps, the loop keeps. -/
theorem consumeAll_induct {P : Objects → Prop} {h : Fin hardMaxNamespaces} {g : ℕ}
    (hP : ∀ o t, o.Belongs h g t → P o → P (o.consume t)) (l : List (Fin hardMaxTxns))
    (ho : P o) : P (consumeAll h g l o) := by
  induction l generalizing o with
  | nil => exact ho
  | cons t l ih =>
    simp only [consumeAll, List.foldl_cons]
    split_ifs with ht
    · exact ih (hP o t ht ho)
    · exact ih ho

theorem consumeAll_handles (h : Fin hardMaxNamespaces) (g : ℕ) (l : List (Fin hardMaxTxns))
    (o : Objects) (h' : Fin hardMaxNamespaces) :
    ((consumeAll h g l o).handles h').inUse = (o.handles h').inUse
      ∧ ((consumeAll h g l o).handles h').generation = (o.handles h').generation
      ∧ ((consumeAll h g l o).handles h').namespaceIndex = (o.handles h').namespaceIndex := by
  refine consumeAll_induct (P := fun o' => (o'.handles h').inUse = (o.handles h').inUse
    ∧ (o'.handles h').generation = (o.handles h').generation
    ∧ (o'.handles h').namespaceIndex = (o.handles h').namespaceIndex) ?_ l ⟨rfl, rfl, rfl⟩
  intro o' t _ ho'
  obtain ⟨hu, hg, hn⟩ := consume_handles o' t h'
  exact ⟨hu.trans ho'.1, hg.trans ho'.2.1, hn.trans ho'.2.2⟩

/-- After the loop no transaction of the list belongs to the handle. -/
theorem not_belongs_consumeAll {h : Fin hardMaxNamespaces} {g : ℕ} (l : List (Fin hardMaxTxns))
    (ht : t ∈ l ∨ ¬o.Belongs h g t) :
    ¬(consumeAll h g l o).Belongs h g t := by
  induction l generalizing o with
  | nil => exact ht.resolve_left (by simp)
  | cons t' l ih =>
    simp only [consumeAll, List.foldl_cons]
    refine ih ?_
    rw [List.mem_cons] at ht
    split_ifs with hb
    · rcases ht with (ht | ht) | ht
      · exact .inr (not_belongs_consume (.inl ht))
      · exact .inl ht
      · exact .inr (not_belongs_consume (.inr ht))
    · rcases ht with (ht | ht) | ht
      · exact .inr (ht ▸ hb)
      · exact .inl ht
      · exact .inr ht

/-! ### Freeing -/

/-- No pool takes a record. -/
def Shrinks (o o' : Objects) : Prop :=
  Frees o.handleRecords o'.handleRecords ∧ Frees o.txnRecords o'.txnRecords
    ∧ Frees o.iterRecords o'.iterRecords

theorem Shrinks.refl (o : Objects) : Shrinks o o := ⟨.refl _, .refl _, .refl _⟩

theorem Shrinks.trans {o o' o'' : Objects} (h : Shrinks o o') (h' : Shrinks o' o'') :
    Shrinks o o'' :=
  ⟨h.1.trans h'.1, h.2.1.trans h'.2.1, h.2.2.trans h'.2.2⟩

theorem shrinks_consume (o : Objects) (t : Fin hardMaxTxns) : Shrinks o (o.consume t) := by
  refine ⟨fun h => ?_, fun t' => ?_, fun i => ?_⟩
  · obtain ⟨hu, hg, -⟩ := consume_handles o t h
    exact ⟨hg, fun hi => hu.symm.trans hi⟩
  · by_cases ht : t' = t
    · subst ht
      simp [txnRecords, consume_transactions_self]
    · simp [txnRecords, consume_transactions_of_ne ht]
  · simp only [iterRecords, consume]
    split_ifs <;> simp

theorem shrinks_release (o : Objects) (h : Fin hardMaxNamespaces) : Shrinks o (o.release h) := by
  refine ⟨fun h' => ?_, .refl _, .refl _⟩
  by_cases hh : h' = h
  · subst hh
    simp [handleRecords, release]
  · simp [handleRecords, release, update_of_ne hh]

theorem shrinks_closed (o : Objects) (h : Fin hardMaxNamespaces) : Shrinks o (o.closed h) := by
  have hall : Shrinks o (consumeAll h (o.handles h).generation (List.finRange hardMaxTxns) o) :=
    consumeAll_induct (P := Shrinks o) (fun o' t _ ho' => ho'.trans (shrinks_consume o' t)) _
      (.refl o)
  exact hall.trans (shrinks_release _ h)

end Objects

theorem Discipline.closed (ho : Discipline o) {h : Fin hardMaxNamespaces}
    (hh : (o.handles h).inUse = true) : Discipline (o.closed h) := by
  have hall : Discipline
      (consumeAll h (o.handles h).generation (List.finRange hardMaxTxns) o) :=
    consumeAll_induct (fun o' t ht ho' => ho'.consume ht.1) _ ho
  obtain ⟨hu, hg, -⟩ :=
    consumeAll_handles h (o.handles h).generation (List.finRange hardMaxTxns) o h
  refine hall.release (hu.trans hh) fun t ht heq => ?_
  -- a live transaction has the generation of its handle, so the loop has consumed it
  have hgen := (hall.owner t ht).2.1
  rw [heq, hg] at hgen
  exact not_belongs_consumeAll _ (.inl (List.mem_finRange t)) ⟨ht, heq, hgen.symm⟩

/-! ### What one call does -/

namespace Objects

def opened (o : Objects) (h i : Fin hardMaxNamespaces) : Objects :=
  { o with
    handles := update o.handles h
      { inUse := true
        generation := (o.handles h).generation + 1
        namespaceIndex := i
        hasWriter := false }
    leased := update o.leased i true }

def begun (o : Objects) (h : Fin hardMaxNamespaces) (t : Fin hardMaxTxns) (mode : Mode)
    (view : View) : Objects :=
  { o with
    handles :=
      if mode = .readWrite then update o.handles h { o.handles h with hasWriter := true }
      else o.handles
    transactions := update o.transactions t
      { inUse := true
        generation := (o.transactions t).generation + 1
        handleIndex := h
        handleGeneration := (o.handles h).generation
        mode := mode
        nsIndex := (o.handles h).namespaceIndex
        view := view } }

def viewed (o : Objects) (t : Fin hardMaxTxns) (view : View) : Objects :=
  { o with
    transactions := update o.transactions t { o.transactions t with view := view } }

def setIter (o : Objects) (i : Fin hardMaxIters) (it : Iterator) : Objects :=
  { o with iterators := update o.iterators i it }

end Objects

/-- The tokens a call issues. -/
structure Issued where
  handle : Option ℕ := none
  txn : Option ℕ := none
  iter : Option ℕ := none

/-- Everything a call can do to the objects, with the tokens it issues. -/
inductive Effect (w : ℕ) (o : Objects) : Issued → Objects → Prop
  | keeps : Effect w o {} o
  | opens {h i : Fin hardMaxNamespaces} (hu : (o.handles h).inUse = false)
      (hg : (o.handles h).generation + 1 ≤ tokenGenerationMaxForBits hardMaxNamespaces w)
      (hl : o.leased i = false) :
      Effect w o
        { handle := some (packToken w h ((o.handles h).generation + 1) hardMaxNamespaces) }
        (o.opened h i)
  | closes {h : Fin hardMaxNamespaces} (hu : (o.handles h).inUse = true) :
      Effect w o {} (o.closed h)
  | begins {h : Fin hardMaxNamespaces} {t : Fin hardMaxTxns} {mode : Mode} {view : View}
      (hh : (o.handles h).inUse = true)
      (hw : mode = .readWrite → (o.handles h).hasWriter = false)
      (hu : (o.transactions t).inUse = false)
      (hg : (o.transactions t).generation + 1 ≤ tokenGenerationMaxForBits hardMaxTxns w) :
      Effect w o
        { txn := some (packToken w t ((o.transactions t).generation + 1) hardMaxTxns) }
        (o.begun h t mode view)
  | edits {t : Fin hardMaxTxns} {view : View} (hu : (o.transactions t).inUse = true) :
      Effect w o {} (o.viewed t view)
  | ends {t : Fin hardMaxTxns} (hu : (o.transactions t).inUse = true) :
      Effect w o {} (o.consume t)
  | iterOpens {t : Fin hardMaxTxns} {i : Fin hardMaxIters} {it : Iterator}
      (ht : (o.transactions t).inUse = true) (hu : (o.iterators i).inUse = false)
      (hg : (o.iterators i).generation + 1 ≤ tokenGenerationMaxForBits hardMaxIters w)
      (hit : it.inUse = true ∧ it.generation = (o.iterators i).generation + 1
        ∧ it.transactionIndex = t
        ∧ it.transactionGeneration = (o.transactions t).generation) :
      Effect w o
        { iter := some (packToken w i ((o.iterators i).generation + 1) hardMaxIters) }
        (o.setIter i it)
  | iterMoves {i : Fin hardMaxIters} {position : ℕ} :
      Effect w o {} (o.setIter i { o.iterators i with position := position })
  | iterCloses {i : Fin hardMaxIters} :
      Effect w o {} (o.setIter i { generation := (o.iterators i).generation })

theorem Discipline.opened (ho : Discipline o) {h i : Fin hardMaxNamespaces}
    (hu : (o.handles h).inUse = false) (hl : o.leased i = false) : Discipline (o.opened h i) := by
  have hfree : ∀ h', (o.handles h').inUse = true → h' ≠ h ∧ (o.handles h').namespaceIndex ≠ i := by
    refine fun h' hu' => ⟨?_, fun heq => ?_⟩
    · rintro rfl
      rw [hu] at hu'
      cases hu'
    · rw [(ho.lease i).2 ⟨h', hu', heq⟩] at hl
      cases hl
  have htxn : ∀ t, (o.transactions t).inUse = true → (o.transactions t).handleIndex ≠ h :=
    fun t ht => (hfree _ (ho.owner t ht).1).1
  refine ⟨fun i' => ?_, fun h₁ h₂ hu₁ hu₂ heq => ?_, fun h' hu' => ?_, ho.writer_unique,
    fun t ht => ?_, ho.source⟩
  · simp only [Objects.opened]
    by_cases hi : i' = i
    · subst hi
      simp only [update_self, true_iff]
      exact ⟨h, by simp⟩
    · rw [update_of_ne hi, ho.lease i']
      constructor
      · rintro ⟨h', hu', heq⟩
        exact ⟨h', by rw [update_of_ne (hfree h' hu').1]; exact ⟨hu', heq⟩⟩
      · rintro ⟨h', hu', heq⟩
        by_cases hh : h' = h
        · subst hh
          rw [update_self] at heq
          exact absurd heq.symm hi
        · rw [update_of_ne hh] at hu' heq
          exact ⟨h', hu', heq⟩
  · simp only [Objects.opened] at hu₁ hu₂ heq
    by_cases h₁h : h₁ = h
    · by_cases h₂h : h₂ = h
      · exact h₁h.trans h₂h.symm
      · subst h₁h
        rw [update_of_ne h₂h] at hu₂ heq
        rw [update_self] at heq
        exact absurd heq.symm (hfree h₂ hu₂).2
    · rw [update_of_ne h₁h] at hu₁ heq
      by_cases h₂h : h₂ = h
      · subst h₂h
        rw [update_self] at heq
        exact absurd heq (hfree h₁ hu₁).2
      · rw [update_of_ne h₂h] at hu₂ heq
        exact ho.handle_unique h₁ h₂ hu₁ hu₂ heq
  · simp only [Objects.opened] at hu' ⊢
    by_cases hh : h' = h
    · subst hh
      simp only [update_self, Bool.false_eq_true, false_iff, not_exists]
      exact fun t ht => htxn t ht.1 ht.2.2
    · rw [update_of_ne hh] at hu' ⊢
      exact ho.writer h' hu'
  · simp only [Objects.opened]
    rw [update_of_ne (htxn t ht)]
    exact ho.owner t ht

theorem Objects.begun_handles (o : Objects) (h : Fin hardMaxNamespaces) (t : Fin hardMaxTxns)
    (mode : Mode) (view : View) (h' : Fin hardMaxNamespaces) :
    ((o.begun h t mode view).handles h').inUse = (o.handles h').inUse
      ∧ ((o.begun h t mode view).handles h').generation = (o.handles h').generation
      ∧ ((o.begun h t mode view).handles h').namespaceIndex = (o.handles h').namespaceIndex := by
  simp only [begun]
  split_ifs
  · by_cases hh : h' = h
    · subst hh
      simp
    · simp [update_of_ne hh]
  · simp

theorem Objects.begun_writes_iff {h h' : Fin hardMaxNamespaces}
    {mode : Mode} {view : View} (hu : (o.transactions t).inUse = false) :
    (o.begun h t mode view).Writes t' h'
      ↔ (t' = t ∧ mode = .readWrite ∧ h = h') ∨ o.Writes t' h' := by
  by_cases ht : t' = t
  · subst ht
    simp [Writes, begun, hu]
  · simp [Writes, begun, ht]

theorem Discipline.begun (ho : Discipline o) {h : Fin hardMaxNamespaces}
    {mode : Mode} {view : View} (hh : (o.handles h).inUse = true)
    (hw : mode = .readWrite → (o.handles h).hasWriter = false)
    (hu : (o.transactions t).inUse = false) : Discipline (o.begun h t mode view) := by
  have hnone : mode = .readWrite → ∀ t', ¬o.Writes t' h := by
    intro hm t' ht'
    have := (ho.writer h hh).2 ⟨t', ht'⟩
    rw [hw hm] at this
    cases this
  have hlive : ∀ t', (o.transactions t').inUse = true → t' ≠ t := by
    rintro t' ht' rfl
    rw [hu] at ht'
    cases ht'
  refine ⟨fun i => ?_, fun h₁ h₂ hu₁ hu₂ heq => ?_, fun h' hu' => ?_, fun h' t₁ t₂ h₁ h₂ => ?_,
    fun t' ht' => ?_, fun i hi => ?_⟩
  · rw [show (o.begun h t mode view).leased = o.leased from rfl, ho.lease i]
    refine exists_congr fun h' => ?_
    rw [(begun_handles o h t mode view h').1, (begun_handles o h t mode view h').2.2]
  · rw [(begun_handles o h t mode view h₁).1] at hu₁
    rw [(begun_handles o h t mode view h₂).1] at hu₂
    rw [(begun_handles o h t mode view h₁).2.2, (begun_handles o h t mode view h₂).2.2] at heq
    exact ho.handle_unique h₁ h₂ hu₁ hu₂ heq
  · rw [(begun_handles o h t mode view h').1] at hu'
    simp only [begun_writes_iff hu]
    by_cases hm : mode = .readWrite ∧ h = h'
    · obtain ⟨hm, rfl⟩ := hm
      simp only [Objects.begun, hm, if_true, update_self, true_iff]
      exact ⟨t, .inl ⟨rfl, trivial, trivial⟩⟩
    · have hflag : ((o.begun h t mode view).handles h').hasWriter = (o.handles h').hasWriter := by
        simp only [Objects.begun]
        split_ifs with hmode
        · rw [update_of_ne (fun heq => hm ⟨hmode, heq.symm⟩)]
        · rfl
      rw [hflag, ho.writer h' hu']
      refine exists_congr fun t' => ⟨.inr, fun ht' => ?_⟩
      rcases ht' with ht' | ht'
      · exact absurd ht'.2 hm
      · exact ht'
  · rw [begun_writes_iff hu] at h₁ h₂
    rcases h₁ with ⟨rfl, hm, rfl⟩ | h₁
    · rcases h₂ with ⟨rfl, -, -⟩ | h₂
      · rfl
      · exact absurd h₂ (hnone hm t₂)
    · rcases h₂ with ⟨rfl, hm, rfl⟩ | h₂
      · exact absurd h₁ (hnone hm t₁)
      · exact ho.writer_unique h' t₁ t₂ h₁ h₂
  · by_cases ht : t' = t
    · subst ht
      have htxn : (o.begun h t' mode view).transactions t' = _ := update_self ..
      rw [htxn, (begun_handles o h t' mode view h).1, (begun_handles o h t' mode view h).2.1,
        (begun_handles o h t' mode view h).2.2]
      exact ⟨hh, rfl, rfl⟩
    · have htxn : (o.begun h t mode view).transactions t' = o.transactions t' :=
        update_of_ne ht _ _
      rw [htxn] at ht' ⊢
      rw [(begun_handles o h t mode view _).1, (begun_handles o h t mode view _).2.1,
        (begun_handles o h t mode view _).2.2]
      exact ho.owner t' ht'
  · have hsrc := ho.source i hi
    have htxn : (o.begun h t mode view).transactions (o.iterators i).transactionIndex
        = o.transactions (o.iterators i).transactionIndex :=
      update_of_ne (hlive _ hsrc.1) _ _
    change ((o.begun h t mode view).transactions (o.iterators i).transactionIndex).inUse = true
      ∧ ((o.begun h t mode view).transactions (o.iterators i).transactionIndex).generation
        = (o.iterators i).transactionGeneration
    rw [htxn]
    exact hsrc

/-- A transaction whose view changed is the same transaction in every other respect. -/
theorem Objects.viewed_transactions (o : Objects) (t : Fin hardMaxTxns) (view : View)
    (t' : Fin hardMaxTxns) :
    ∃ v, (o.viewed t view).transactions t' = { o.transactions t' with view := v } := by
  by_cases ht : t' = t
  · subst ht
    exact ⟨view, update_self ..⟩
  · exact ⟨(o.transactions t').view, update_of_ne ht _ _⟩

theorem Discipline.viewed (ho : Discipline o) (t : Fin hardMaxTxns) (view : View) :
    Discipline (o.viewed t view) := by
  have hw : ∀ t' h, (o.viewed t view).Writes t' h ↔ o.Writes t' h := by
    intro t' h
    obtain ⟨v, hv⟩ := viewed_transactions o t view t'
    simp only [Writes, hv]
  refine ⟨ho.lease, ho.handle_unique, fun h hu => ?_, fun h t₁ t₂ h₁ h₂ => ?_, fun t' ht' => ?_,
    fun i hi => ?_⟩
  · simp only [hw]
    exact ho.writer h hu
  · exact ho.writer_unique h t₁ t₂ ((hw t₁ h).1 h₁) ((hw t₂ h).1 h₂)
  · obtain ⟨v, hv⟩ := viewed_transactions o t view t'
    rw [hv] at ht' ⊢
    exact ho.owner t' ht'
  · obtain ⟨v, hv⟩ := viewed_transactions o t view (o.iterators i).transactionIndex
    have hsrc := ho.source i hi
    change ((o.viewed t view).transactions (o.iterators i).transactionIndex).inUse = true
      ∧ ((o.viewed t view).transactions (o.iterators i).transactionIndex).generation
        = (o.iterators i).transactionGeneration
    rw [hv]
    exact hsrc

theorem Discipline.setIter (ho : Discipline o) {i : Fin hardMaxIters}
    {it : Iterator} (hit : it.inUse = true → (o.transactions it.transactionIndex).inUse = true
      ∧ (o.transactions it.transactionIndex).generation = it.transactionGeneration) :
    Discipline (o.setIter i it) := by
  refine ⟨ho.lease, ho.handle_unique, ho.writer, ho.writer_unique, ho.owner, fun j hj => ?_⟩
  simp only [Objects.setIter] at hj ⊢
  by_cases hji : j = i
  · subst hji
    rw [update_self] at hj ⊢
    exact hit hj
  · rw [update_of_ne hji] at hj ⊢
    exact ho.source j hj

/-- Every call keeps the discipline. -/
theorem Effect.discipline {w : ℕ} {o o' : Objects} {k : Issued} (h : Effect w o k o')
    (ho : Discipline o) : Discipline o' := by
  cases h with
  | keeps => exact ho
  | opens hu _ hl => exact ho.opened hu hl
  | closes hu => exact ho.closed hu
  | begins hh hw hu _ => exact ho.begun hh hw hu
  | edits _ => exact ho.viewed _ _
  | ends hu => exact ho.consume hu
  | iterOpens ht _ _ hit =>
    refine ho.setIter fun _ => ?_
    rw [hit.2.2.1, hit.2.2.2]
    exact ⟨ht, rfl⟩
  | iterMoves => exact ho.setIter fun hu => ho.source _ hu
  | iterCloses => exact ho.setIter fun hu => absurd hu (by simp)

/-! ### What one call does to the pools -/

def handleCoding (w : ℕ) : Coding hardMaxNamespaces := tokenCoding w _ (by decide)

def txnCoding (w : ℕ) : Coding hardMaxTxns := tokenCoding w _ (by decide)

def iterCoding (w : ℕ) : Coding hardMaxIters := tokenCoding w _ (by decide)

theorem Objects.frees_setIter {i : Fin hardMaxIters} {it : Iterator}
    (hg : it.generation = (o.iterators i).generation)
    (hu : it.inUse = true → (o.iterators i).inUse = true) :
    Frees o.iterRecords (o.setIter i it).iterRecords := by
  intro j
  by_cases hj : j = i
  · subst hj
    simpa [iterRecords, setIter] using ⟨hg, hu⟩
  · simp [iterRecords, setIter, update_of_ne hj]

theorem Effect.handle_change {w : ℕ} {o o' : Objects} {k : Issued} (h : Effect w o k o') :
    Change (handleCoding w) o.handleRecords o'.handleRecords k.handle := by
  cases h with
  | @opens h i hu hg _ =>
    refine .takes h hu hg (funext fun h' => ?_)
    by_cases hh : h' = h
    · subst hh
      simp [handleRecords, opened]
    · simp [handleRecords, opened, update_of_ne hh]
  | @begins h t mode view _ _ _ _ =>
    refine .frees fun h' => ?_
    obtain ⟨hu, hg, -⟩ := begun_handles o h t mode view h'
    exact ⟨hg, fun hi => hu.symm.trans hi⟩
  | closes _ => exact .frees (shrinks_closed o _).1
  | ends _ => exact .frees (shrinks_consume o _).1
  | _ => exact .frees (.refl _)

theorem Effect.txn_change {w : ℕ} {o o' : Objects} {k : Issued} (h : Effect w o k o') :
    Change (txnCoding w) o.txnRecords o'.txnRecords k.txn := by
  cases h with
  | @begins h t mode view _ _ hu hg =>
    refine .takes t hu hg (funext fun t' => ?_)
    by_cases ht : t' = t
    · subst ht
      simp [txnRecords, begun]
    · simp [txnRecords, begun, update_of_ne ht]
  | @edits t view _ =>
    refine .frees fun t' => ?_
    obtain ⟨v, hv⟩ := viewed_transactions o t view t'
    simp [txnRecords, hv]
  | closes _ => exact .frees (shrinks_closed o _).2.1
  | ends _ => exact .frees (shrinks_consume o _).2.1
  | _ => exact .frees (.refl _)

theorem Effect.iter_change {w : ℕ} {o o' : Objects} {k : Issued} (h : Effect w o k o') :
    Change (iterCoding w) o.iterRecords o'.iterRecords k.iter := by
  cases h with
  | @iterOpens t i it _ hu hg hit =>
    refine .takes i hu hg (funext fun j => ?_)
    by_cases hj : j = i
    · subst hj
      simp [iterRecords, setIter, hit.1, hit.2.1]
    · simp [iterRecords, setIter, update_of_ne hj]
  | iterMoves => exact .frees (frees_setIter rfl id)
  | iterCloses => exact .frees (frees_setIter rfl nofun)
  | closes _ => exact .frees (shrinks_closed o _).2.2
  | ends _ => exact .frees (shrinks_consume o _).2.2
  | _ => exact .frees (.refl _)

/-! ### The operations -/

variable (port)

theorem resolveHandle_eq (s : Storage) (token : ℕ) :
    resolveHandle port s token
      = resolve (handleCoding port.uintptrBits) s.objects.handleRecords token := by
  unfold resolveHandle resolve
  simp only [handleCoding, tokenCoding]
  cases unpackToken port.uintptrBits token hardMaxNamespaces with
  | none | some => rfl

theorem resolveTxn_eq (s : Storage) (token : ℕ) :
    resolveTxn port s token
      = resolve (txnCoding port.uintptrBits) s.objects.txnRecords token := by
  unfold resolveTxn resolve
  simp only [txnCoding, tokenCoding]
  cases unpackToken port.uintptrBits token hardMaxTxns with
  | none | some => rfl

theorem resolveIter_eq (s : Storage) (token : ℕ) :
    resolveIter port s token
      = resolve (iterCoding port.uintptrBits) s.objects.iterRecords token := by
  unfold resolveIter resolve
  simp only [iterCoding, tokenCoding]
  cases unpackToken port.uintptrBits token hardMaxIters with
  | none | some => rfl

variable {port}

theorem resolve_inUse {n : ℕ} {c : Coding n} {r : Fin n → Record} {token : ℕ} {i : Fin n}
    (h : resolve c r token = some i) : (r i).inUse = true := by
  unfold resolve at h
  split at h
  · cases h
  · split_ifs at h with hc
    cases h
    exact hc.1

theorem objects_consumeTxn (s : Storage) (t : Fin hardMaxTxns) :
    (consumeTxn s t).objects = s.objects.consume t := by
  unfold consumeTxn consumeItersForTxn consume
  dsimp only [Storage.objects]
  split_ifs
  · rfl
  · rfl

@[simp] theorem objects_refreshNsCacheFromDirectory (s : Storage) :
    (refreshNsCacheFromDirectory s).objects = s.objects := by
  simp only [Storage.objects, refreshNsCacheFromDirectory, Objects.mk.injEq, true_and]
  funext i
  split_ifs <;> rfl

theorem objects_commitDirectory (s : Storage) (m : μ) :
    (commitDirectory port s m).2.1.objects = s.objects := by
  unfold commitDirectory
  dsimp only
  split_ifs
  · rfl
  · split
    · rfl
    · split <;> rfl

theorem objects_ensureDirectory {s s' : Storage} {m m' : μ}
    (h : ensureDirectory port s m = (some s', m')) : s'.objects = s.objects := by
  unfold ensureDirectory reloadDirectoryFromMedia at h
  split_ifs at h
  · split at h
    · cases h
    · cases h
      exact objects_refreshNsCacheFromDirectory { s with directory := _ }
  · cases h
    rfl

variable {s : Storage}

/-- A call that fails, or only touches caches, media and directory. -/
theorem effect_of_objects_eq {w : ℕ} (hs : s.objects = o) :
    Effect w o {} s.objects := by
  rw [hs]
  exact .keeps

theorem leased_update (f : Fin hardMaxNamespaces → NamespaceCache) (i : Fin hardMaxNamespaces)
    (c : NamespaceCache) :
    (fun j => (update f i c j).leased)
      = update (fun j => (f j).leased) i c.leased :=
  Function.comp_update NamespaceCache.leased f i c

/-- A change of a namespace cache that leaves its lease. -/
theorem leased_update_of_eq {f : Fin hardMaxNamespaces → NamespaceCache}
    {i : Fin hardMaxNamespaces} {c : NamespaceCache} (h : c.leased = (f i).leased) :
    (fun j => (update f i c j).leased) = fun j => (f j).leased := by
  rw [leased_update, h]
  exact update_eq_self i _

theorem openHandle_effect {m : μ} {i : Fin hardMaxNamespaces}
    (hs : s.objects = o) (hl : (s.namespaces i).leased = false) :
    Effect port.uintptrBits o { handle := (openHandle port s m i).token }
      (openHandle port s m i).storage.objects := by
  subst hs
  unfold openHandle
  split
  · exact .keeps
  · rename_i h g hf
    obtain ⟨hu, hg, rfl⟩ := freeRecord_eq_some hf
    convert Effect.opens (o := s.objects) (i := i) hu hg hl using 1
    · rfl
    · exact Objects.ext rfl rfl rfl (leased_update _ _ _)

theorem createNamespace_effect {m : μ} {i : Fin hardMaxNamespaces}
    {name : List UInt8} {schema : UInt32} (hs : s.objects = o) :
    Effect port.uintptrBits o { handle := (createNamespace port s m i name schema).token }
      (createNamespace port s m i name schema).storage.objects := by
  subst hs
  unfold createNamespace
  split
  · exact .keeps
  · exact .keeps
  · rename_i m' _
    dsimp only
    split_ifs with hl
    · exact .keeps
    · have hobj := @objects_commitDirectory _ port (setEntry s i (newEntry name schema)) m'
      split
      · rename_i s' m'' hc
        rw [hc] at hobj
        exact effect_of_objects_eq (s := fenceDirectoryCache s') hobj
      · rename_i s' m'' hc
        rw [hc] at hobj
        exact effect_of_objects_eq (s := setEntry s' i {}) hobj
      · rename_i s' m'' hc
        rw [hc] at hobj
        have hleased : (refreshNsCacheFromDirectory s').objects.leased i
            = s.objects.leased i := by
          rw [objects_refreshNsCacheFromDirectory]
          exact congrFun (congrArg Objects.leased hobj) i
        have hfree : s.objects.leased i = false := Bool.eq_false_iff.2 hl
        refine openHandle_effect ?_ (hleased.trans hfree)
        rw [objects_refreshNsCacheFromDirectory]
        exact hobj

theorem portOpen_effect (s : Storage) (m : μ) (name : List UInt8) (schema : UInt32) :
    Effect port.uintptrBits s.objects { handle := (portOpen port s m name schema).token }
      (portOpen port s m name schema).storage.objects := by
  unfold portOpen
  split_ifs
  · exact .keeps
  · exact .keeps
  · split
    · exact .keeps
    · rename_i s' m' he
      have hobj := objects_ensureDirectory he
      split
      · split_ifs with _ hl
        · exact effect_of_objects_eq hobj
        · exact effect_of_objects_eq hobj
        · exact openHandle_effect hobj (by simpa using hl)
      · split
        · exact effect_of_objects_eq hobj
        · exact createNamespace_effect hobj

theorem objects_closeTransactions (s : Storage) (h : Fin hardMaxNamespaces) (g : ℕ) :
    (closeTransactions s h g).objects
      = consumeAll h g (List.finRange hardMaxTxns) s.objects := by
  unfold closeTransactions consumeAll
  generalize List.finRange hardMaxTxns = l
  induction l generalizing s with
  | nil => rfl
  | cons t l ih =>
    simp only [List.foldl_cons]
    rw [ih]
    congr 1
    by_cases hb : s.objects.Belongs h g t
    · rw [if_pos hb, ← objects_consumeTxn]
      exact congrArg Storage.objects (if_pos hb)
    · rw [if_neg hb]
      exact congrArg Storage.objects (if_neg hb)

theorem portClose_effect (s : Storage) (token : ℕ) :
    Effect port.uintptrBits s.objects {} (portClose port s token).objects := by
  unfold portClose
  split
  · exact .keeps
  · rename_i h hres
    rw [resolveHandle_eq] at hres
    have hu : (s.objects.handles h).inUse = true := resolve_inUse hres
    convert Effect.closes (w := port.uintptrBits) hu using 1
    have hobj := objects_closeTransactions s h (s.handles h).generation
    obtain ⟨-, hg, hn⟩ := consumeAll_handles h (s.objects.handles h).generation
      (List.finRange hardMaxTxns) s.objects h
    unfold Objects.closed Objects.release
    rw [hg, hn, show (s.objects.handles h).generation = (s.handles h).generation from rfl, ← hobj]
    exact Objects.ext rfl rfl rfl (leased_update _ _ _)

theorem portBegin_effect (s : Storage) (m : μ) (token : ℕ) (mode : Mode) :
    Effect port.uintptrBits s.objects { txn := (portBegin port s m token mode).token }
      (portBegin port s m token mode).storage.objects := by
  unfold portBegin
  split
  · exact .keeps
  · rename_i h hres
    rw [resolveHandle_eq] at hres
    have hh : (s.objects.handles h).inUse = true := resolve_inUse hres
    split_ifs with hm hw hl
    · exact .keeps
    · exact .keeps
    · exact .keeps
    · split
      · exact .keeps
      · rename_i t g hf
        obtain ⟨hu, hg, rfl⟩ := freeRecord_eq_some hf
        split
        · exact .keeps
        · rename_i view gen slot m' _
          have hwf : mode = .readWrite → (s.objects.handles h).hasWriter = false :=
            fun hmode => Bool.eq_false_iff.2 fun hf => hw ⟨hmode, hf⟩
          convert @Effect.begins _ s.objects _ _ _ view hh hwf hu hg using 1
          · rfl
          · exact Objects.ext rfl rfl rfl (leased_update_of_eq rfl)

theorem portPut_effect (s : Storage) (token : ℕ) (key value : List UInt8) :
    Effect port.uintptrBits s.objects {} (portPut port s token key value).2.objects := by
  unfold portPut
  split
  · exact .keeps
  · rename_i t hres
    rw [resolveTxn_eq] at hres
    split_ifs
    · exact .keeps
    · exact .keeps
    · split
      · exact .keeps
      · exact .edits (resolve_inUse hres)

theorem portErase_effect (s : Storage) (token : ℕ) (key : List UInt8) :
    Effect port.uintptrBits s.objects {} (portErase port s token key).2.objects := by
  unfold portErase
  split
  · exact .keeps
  · rename_i t hres
    rw [resolveTxn_eq] at hres
    split_ifs
    · exact .keeps
    · split
      · exact .keeps
      · exact .edits (resolve_inUse hres)

theorem portIterOpen_effect (s : Storage) (token : ℕ) (keyPrefix : List UInt8) :
    Effect port.uintptrBits s.objects { iter := (portIterOpen port s token keyPrefix).2.1 }
      (portIterOpen port s token keyPrefix).2.2.objects := by
  unfold portIterOpen
  split
  · exact .keeps
  · rename_i t hres
    rw [resolveTxn_eq] at hres
    split_ifs
    · exact .keeps
    · exact .keeps
    · split
      · exact .keeps
      · rename_i i g hf
        obtain ⟨hu, hg, rfl⟩ := freeRecord_eq_some hf
        exact .iterOpens (o := s.objects) (resolve_inUse hres) hu hg ⟨rfl, rfl, rfl, rfl⟩

theorem portIterNext_effect (s : Storage) (token keyCapacity valueCapacity : ℕ) :
    Effect port.uintptrBits s.objects {}
      (portIterNext port s token keyCapacity valueCapacity).2.2.2.objects := by
  unfold portIterNext
  split
  · exact .keeps
  · dsimp only
    split_ifs
    · exact .keeps
    · split
      · exact .keeps
      · split_ifs
        · exact .keeps
        · exact .iterMoves (o := s.objects)

theorem portIterClose_effect (s : Storage) (token : ℕ) :
    Effect port.uintptrBits s.objects {} (portIterClose port s token).objects := by
  unfold portIterClose
  split
  · exact .keeps
  · exact .iterCloses (o := s.objects)

/-- A call that ends with the transaction consumed. -/
theorem consumeTxn_effect {w : ℕ}
    (hs : s.objects = o) (hu : (o.transactions t).inUse = true) :
    Effect w o {} (consumeTxn s t).objects := by
  rw [objects_consumeTxn, hs]
  exact .ends hu

theorem portCommit_effect (s : Storage) (m : μ) (token : ℕ) (durability : Durability) :
    Effect port.uintptrBits s.objects {} (portCommit port s m token durability).storage.objects := by
  unfold portCommit
  split
  · exact .keeps
  · rename_i t hres
    rw [resolveTxn_eq] at hres
    have hu : (s.objects.transactions t).inUse = true := resolve_inUse hres
    dsimp only
    split
    · exact consumeTxn_effect rfl hu
    split
    · exact consumeTxn_effect rfl hu
    split
    · exact consumeTxn_effect rfl hu
    split
    · exact consumeTxn_effect rfl hu
    split
    · exact consumeTxn_effect rfl hu
    split
    · exact consumeTxn_effect rfl hu
    · refine consumeTxn_effect ?_ hu
      exact Objects.ext rfl rfl rfl (leased_update_of_eq rfl)

theorem portRollback_effect (s : Storage) (token : ℕ) :
    Effect port.uintptrBits s.objects {} (portRollback port s token).2.objects := by
  unfold portRollback
  split
  · exact .keeps
  · rename_i t hres
    rw [resolveTxn_eq] at hres
    exact consumeTxn_effect rfl (resolve_inUse hres)

/-- The pool that a call's token is for. -/
def Op.issued (op : Op) (token : Option ℕ) : Issued :=
  match op with
  | .open .. => { handle := token }
  | .begin .. => { txn := token }
  | .iterOpen .. => { iter := token }
  | _ => {}

/-- Whatever the medium answers, a call has one of the effects. -/
theorem step_effect (s : Storage) (m : μ) (op : Op) :
    Effect port.uintptrBits s.objects (op.issued (step port s m op).token)
      (step port s m op).storage.objects := by
  cases op with
  | «open» name schema => exact portOpen_effect s m name schema
  | close handle => exact portClose_effect s handle
  | begin handle mode => exact portBegin_effect s m handle mode
  | get txn key capacity => exact .keeps
  | put txn key value => exact portPut_effect s txn key value
  | erase txn key => exact portErase_effect s txn key
  | iterOpen txn keyPrefix => exact portIterOpen_effect s txn keyPrefix
  | iterNext iter keyCapacity valueCapacity =>
    exact portIterNext_effect s iter keyCapacity valueCapacity
  | iterClose iter => exact portIterClose_effect s iter
  | capacity handle => exact .keeps
  | commit txn durability => exact portCommit_effect s m txn durability
  | rollback txn => exact portRollback_effect s txn

/-! ### Runs -/

/-- A storage with its medium, the number of calls made so far, and the history of each pool. -/
structure Client (μ : Type) where
  storage : Storage
  media : μ
  clock : ℕ := 0
  handles : History hardMaxNamespaces := {}
  txns : History hardMaxTxns := {}
  iters : History hardMaxIters := {}

/-- Before the first call. -/
def Client.start (s : Storage) (m : μ) : Client μ := { storage := s, media := m }

variable (port)

def Client.call (c : Client μ) (op : Op) : Client μ :=
  let r := step port c.storage c.media op
  let o := c.storage.objects
  let o' := r.storage.objects
  let k := op.issued r.token
  { storage := r.storage
    media := r.media
    clock := c.clock + 1
    handles := c.handles.next c.clock o.handleRecords o'.handleRecords k.handle
    txns := c.txns.next c.clock o.txnRecords o'.txnRecords k.txn
    iters := c.iters.next c.clock o.iterRecords o'.iterRecords k.iter }

def Client.run (c : Client μ) (ops : List Op) : Client μ := ops.foldl (Client.call port) c

/-- The invariant of a run. -/
structure Client.Sound (c : Client μ) : Prop where
  discipline : Discipline c.storage.objects
  handles : Tracked (handleCoding port.uintptrBits) c.clock c.storage.objects.handleRecords c.handles
  txns : Tracked (txnCoding port.uintptrBits) c.clock c.storage.objects.txnRecords c.txns
  iters : Tracked (iterCoding port.uintptrBits) c.clock c.storage.objects.iterRecords c.iters

variable {port}

theorem Client.Sound.call {c : Client μ} (h : c.Sound port) (op : Op) :
    (c.call port op).Sound port := by
  have he := @step_effect _ port c.storage c.media op
  exact ⟨he.discipline h.discipline, h.handles.change he.handle_change,
    h.txns.change he.txn_change, h.iters.change he.iter_change⟩

theorem Client.Sound.run {c : Client μ} (h : c.Sound port) (ops : List Op) :
    (c.run port ops).Sound port := by
  induction ops generalizing c with
  | nil => exact h
  | cons op ops ih => exact ih (h.call op)

theorem objects_privateInit {config : Config} {policy : FullPolicy} {m m' : μ}
    (h : privateInit port config policy m = (some s, m')) :
    s.objects = ⟨fun _ => {}, fun _ => {}, fun _ => {}, fun _ => false⟩ := by
  unfold privateInit at h
  split_ifs at h
  · split at h
    · cases h
    · cases h
      exact objects_refreshNsCacheFromDirectory _
  · cases h

theorem Client.sound_privateInit {config : Config} {policy : FullPolicy} {m m' : μ}
    (h : privateInit port config policy m = (some s, m')) :
    (Client.start s m').Sound port := by
  have hobj := objects_privateInit h
  have hrec : s.objects.handleRecords = fun _ => ⟨false, 0⟩ := by rw [hobj]; rfl
  have hrec' : s.objects.txnRecords = fun _ => ⟨false, 0⟩ := by rw [hobj]; rfl
  have hrec'' : s.objects.iterRecords = fun _ => ⟨false, 0⟩ := by rw [hobj]; rfl
  refine ⟨?_, ?_, ?_, ?_⟩
  · dsimp only [Client.start]
    rw [hobj]
    exact discipline_initial (fun _ => {}) fun _ => rfl
  · dsimp only [Client.start]
    rw [hrec]
    exact tracked_unused _
  · dsimp only [Client.start]
    rw [hrec']
    exact tracked_unused _
  · dsimp only [Client.start]
    rw [hrec'']
    exact tracked_unused _

/-- The tokens issued for a pool mean what they were issued for: the records in use are those that
hold an object, and a token resolves exactly to the record that holds its own object. -/
structure Faithful {n : ℕ} (lookup : ℕ → Option (Fin n)) (r : Fin n → Record) (H : History n)
    (w : ℕ) : Prop where
  live : ∀ i, (r i).inUse = true ↔ (H.object i).isSome = true
  resolves : ∀ token object, (token, object) ∈ H.issued →
    ∀ i, lookup token = some i ↔ H.object i = some object
  bounded : ∀ i, (r i).generation ≤ tokenGenerationMaxForBits n w

theorem faithful_of_tracked {w n t : ℕ} {hn : n < 2 ^ 32} {r : Fin n → Record} {H : History n}
    {lookup : ℕ → Option (Fin n)} (h : Tracked (tokenCoding w n hn) t r H)
    (hl : ∀ token, lookup token = resolve (tokenCoding w n hn) r token) : Faithful lookup r H w where
  live := h.live
  resolves := fun token object hmem i => by
    rw [hl]
    exact h.resolve_iff hmem i
  bounded := h.limit

/-- No token is issued from a pool that is exhausted. -/
theorem token_eq_none_of_exhausted {w n : ℕ} {hn : n < 2 ^ 32} {r r' : Fin n → Record}
    {token : Option ℕ} (h : Change (tokenCoding w n hn) r r' token) (hx : Exhausted w r) :
    token = none := by
  cases h with
  | frees _ => rfl
  | takes i hi hg _ =>
    rcases hx i with hu | hu
    · rw [hi] at hu
      cases hu
    · exact absurd hg (by simp only [tokenCoding]; omega)

/-- **The handle discipline.**  In every state reached from an initialized storage, over any medium
and on a platform of any width, the objects obey the discipline, every token ever issued resolves
exactly while the object it was issued for is live, and an exhausted pool issues no token. -/
theorem handle_discipline {config : Config} {policy : FullPolicy} {m m' : μ}
    (h : privateInit port config policy m = (some s, m')) (ops : List Op) :
    let c := (Client.start s m').run port ops
    let o := c.storage.objects
    Discipline o
      ∧ Faithful (resolveHandle port c.storage) o.handleRecords c.handles port.uintptrBits
      ∧ Faithful (resolveTxn port c.storage) o.txnRecords c.txns port.uintptrBits
      ∧ Faithful (resolveIter port c.storage) o.iterRecords c.iters port.uintptrBits
      ∧ (Exhausted port.uintptrBits o.handleRecords → ∀ name schema,
        (step port c.storage c.media (.open name schema)).token = none)
      ∧ (Exhausted port.uintptrBits o.txnRecords → ∀ handle mode,
        (step port c.storage c.media (.begin handle mode)).token = none)
      ∧ (Exhausted port.uintptrBits o.iterRecords → ∀ txn keyPrefix,
        (step port c.storage c.media (.iterOpen txn keyPrefix)).token = none) := by
  intro c o
  have hs : c.Sound port := (Client.sound_privateInit h).run ops
  refine ⟨hs.discipline, faithful_of_tracked hs.handles (resolveHandle_eq port c.storage),
    faithful_of_tracked hs.txns (resolveTxn_eq port c.storage),
    faithful_of_tracked hs.iters (resolveIter_eq port c.storage), fun hx name schema => ?_,
    fun hx handle mode => ?_, fun hx txn keyPrefix => ?_⟩
  · exact token_eq_none_of_exhausted
      (step_effect c.storage c.media (.open name schema)).handle_change hx
  · exact token_eq_none_of_exhausted
      (step_effect c.storage c.media (.begin handle mode)).txn_change hx
  · exact token_eq_none_of_exhausted
      (step_effect c.storage c.media (.iterOpen txn keyPrefix)).iter_change hx

/-! ### A run -/

def sampleConfig : Config where
  maxNamespaces := 4
  maxEntriesPerNamespace := 32
  maxBytesPerNamespace := 69632
  maxLiveTxns := 3
  maxLiveIters := 2
  wlUsableSectorCount := 200
  assumedEraseEndurance := 100000
  wearReservePercent := 20
  plannedFullCommitsPerDay := 10
  plannedServiceDays := 3650

/-- A medium of blocks, each written as a whole, on a 32-bit platform. -/
def blockPort : Port (ℕ → List UInt8) where
  media :=
    { read := fun m offset _ => (some (m offset), m)
      write := fun m offset bytes => (.ok, update m offset bytes)
      erase := fun m offset n => (.ok, update m offset (List.replicate n 0xFF))
      sync := fun m => (.ok, m) }
  uintptrBits := 32

def erasedBlocks : ℕ → List UInt8 := fun offset =>
  List.replicate (if offset < 2 * dirBytes then dirBytes else slotBytes) 0xFF

/-- The storage before its first call. -/
def bootStorage : Storage :=
  refreshNsCacheFromDirectory { config := sampleConfig, fullPolicy := .hostModel }

theorem loadDirectory_erasedBlocks (config : Config) :
    loadDirectory blockPort config erasedBlocks = (some {}, erasedBlocks) := by
  have h0 : erasedBlocks (mediaDirectoryOffset 0) = List.replicate dirBytes 0xFF := by
    unfold erasedBlocks
    rw [if_pos (by decide)]
  have h1 : erasedBlocks (mediaDirectoryOffset 1) = List.replicate dirBytes 0xFF := by
    unfold erasedBlocks
    rw [if_pos (by decide)]
  simp only [loadDirectory, blockPort, h0, h1, decodeDirectory_erased, selectDirectory]

theorem privateInit_blockPort :
    privateInit blockPort sampleConfig .hostModel erasedBlocks =
      (some bootStorage, erasedBlocks) := by
  unfold privateInit
  rw [if_neg (by decide), loadDirectory_erasedBlocks]
  rfl

theorem ensureDirectory_bootStorage :
    ensureDirectory blockPort bootStorage erasedBlocks = (some bootStorage, erasedBlocks) := by
  have hrefresh : refreshNsCacheFromDirectory { bootStorage with directory := {} } =
      bootStorage := by
    simp only [refreshNsCacheFromDirectory, bootStorage, Storage.mk.injEq, true_and, and_true]
    funext i
    split_ifs <;> rfl
  have hload := loadDirectory_erasedBlocks bootStorage.config
  rw [ensureDirectory, if_pos (by decide)]
  simp only [reloadDirectoryFromMedia]
  rw [hload]
  dsimp only
  rw [hrefresh]
  rfl

theorem storable_nil : Storable [] := ⟨nofun, List.isChain_nil, Nat.zero_le _, Nat.zero_le _⟩

/-- The slot of an empty namespace called "A". -/
def emptySlot : List UInt8 := slotImage schemaM1a 1 [65] 0 0 []

theorem decodeSlot_emptySlot :
    decodeSlot emptySlot schemaM1a (some [65]) = .valid (1, View.ofRows []) := by
  have hdec := @decodeSlot_slotImage [] schemaM1a 1 [65] storable_nil (by decide) (by decide)
    (by decide) (some [65]) (by simp)
  rwa [show packRows [] = [] from rfl, show rowBytes [] = 0 from rfl, List.length_nil] at hdec

theorem decodeSlot_erased (schema : UInt32) (expected : Option (List UInt8)) :
    decodeSlot (List.replicate slotBytes 0xFF) schema expected = .empty := by
  have herased :
      bytesAllErased (Bytes.slice (List.replicate slotBytes 0xFF) 0 slotBytes) = true := by
    rw [Bytes.slice_self List.length_replicate]
    simp [bytesAllErased]
  rw [decodeSlot, if_neg (by simp), if_pos herased]

/-- A medium that holds an empty namespace at its first index. -/
structure HoldsEmpty (m : ℕ → List UInt8) : Prop where
  first : m (mediaDataOffset 0 0) = emptySlot
  second : m (mediaDataOffset 0 1) = List.replicate slotBytes 0xFF

theorem seed_blockPort (m : ℕ → List UInt8) :
    ∃ m', seedEmptyNamespaceData blockPort m 0 schemaM1a [65] 1 = (.ok, m') ∧ HoldsEmpty m' := by
  have henc : encodeSlot schemaM1a 1 [65] {} = some emptySlot :=
    @encodeSlot_eq {} schemaM1a 1 [65] View.inBlob_empty storable_nil rfl (by decide) (by decide)
      (by decide)
  simp only [seedEmptyNamespaceData, henc, blockPort]
  refine ⟨_, rfl, ?_, ?_⟩
  · rw [update_self]
  · rw [update_of_ne (by decide), update_self]

theorem publish_blockPort {m : ℕ → List UInt8} (h : HoldsEmpty m) (image : List UInt8)
    (slot : Fin 2) : ∃ m', publishDirectory blockPort m (mediaDirectoryOffset slot) image =
      (.ok, m') ∧ HoldsEmpty m' := by
  have hother : ∀ (d : Fin 2) (m : ℕ → List UInt8) (offset : ℕ) (bytes : List UInt8),
      offset < 2 * dirBytes →
        update m offset bytes (mediaDataOffset 0 d) = m (mediaDataOffset 0 d) := by
    intro d m offset bytes ho
    refine update_of_ne ?_ _ _
    unfold mediaDataOffset
    omega
  have hslot : mediaDirectoryOffset slot + dirSealOffset < 2 * dirBytes := by
    fin_cases slot <;> decide
  simp only [publishDirectory, blockPort]
  refine ⟨_, rfl, ?_, ?_⟩
  · rw [hother _ _ _ _ hslot, hother _ _ _ _ (by omega), hother _ _ _ _ (by omega), h.first]
  · rw [hother _ _ _ _ hslot, hother _ _ _ _ (by omega), hother _ _ _ _ (by omega), h.second]

theorem commitDirectory_blockPort {m : ℕ → List UInt8} (h : HoldsEmpty m) :
    ∃ s' m', commitDirectory blockPort (setEntry bootStorage 0 (newEntry [65] schemaM1a)) m =
        (.ok, s', m') ∧ HoldsEmpty m' ∧ s'.config = sampleConfig ∧
      s'.transactions = (fun _ => {}) ∧ s'.handles = (fun _ => {}) ∧
      s'.directory.entries 0 = newEntry [65] schemaM1a := by
  have hmax : (setEntry bootStorage 0 (newEntry [65] schemaM1a)).directory.generation.toNat ≠
      2 ^ 64 - 1 := by decide
  have hgen : (setEntry bootStorage 0 (newEntry [65] schemaM1a)).directory.generation + 1 = 1 := by
    decide
  have hslot : sibling (setEntry bootStorage 0 (newEntry [65] schemaM1a)).directory.activeDirSlot =
      1 := by decide
  have hconfig : (setEntry bootStorage 0 (newEntry [65] schemaM1a)).config = sampleConfig := rfl
  have htxns : (setEntry bootStorage 0 (newEntry [65] schemaM1a)).transactions = fun _ => {} := rfl
  have hhandles : (setEntry bootStorage 0 (newEntry [65] schemaM1a)).handles = fun _ => {} := rfl
  have hentry : (setEntry bootStorage 0 (newEntry [65] schemaM1a)).directory.entries 0 =
      newEntry [65] schemaM1a := by decide
  generalize setEntry bootStorage 0 (newEntry [65] schemaM1a) = s at *
  obtain ⟨image, himage⟩ : ∃ image, encodeDirectory 1 sampleConfig s.directory false =
      some image := ⟨_, by rw [encodeDirectory, if_neg (by decide)]⟩
  obtain ⟨m', hm', hholds⟩ := publish_blockPort h image 1
  have hcommit : commitDirectory blockPort s m =
      (.ok, { s with directory := { s.directory with generation := 1, activeDirSlot := 1 } },
        m') := by
    rw [commitDirectory, if_neg hmax]
    dsimp only
    rw [hgen, hconfig, hslot, himage]
    dsimp only
    rw [hm']
  exact ⟨_, m', hcommit, hholds, hconfig, htxns, hhandles, hentry⟩

/-- The first call opens the namespace. -/
theorem open_blockPort : ∃ s m,
    (portOpen blockPort bootStorage erasedBlocks [65] schemaM1a).storage = s ∧
      (portOpen blockPort bootStorage erasedBlocks [65] schemaM1a).media = m ∧ HoldsEmpty m ∧
      s.config = sampleConfig ∧ s.transactions = (fun _ => {}) ∧
      s.directory.entries 0 = newEntry [65] schemaM1a ∧
      s.handles 0 =
        { inUse := true, generation := 1, namespaceIndex := 0, hasWriter := false } := by
  unfold portOpen
  rw [if_neg (by decide), if_neg (by decide), ensureDirectory_bootStorage]
  dsimp only
  have hfind : findDirectoryIndex bootStorage [65] = none := by decide
  have hfree : findFreeDirectoryIndex bootStorage = some 0 := by decide
  rw [hfind, hfree]
  dsimp only
  obtain ⟨m1, hm1, hholds⟩ := seed_blockPort erasedBlocks
  simp only [createNamespace, hm1]
  rw [if_neg (by decide)]
  obtain ⟨s2, m2, hm2, hholds', hconfig, htxns, hhandles, hentry⟩ :=
    commitDirectory_blockPort hholds
  have hrecord : freeRecord blockPort hardMaxNamespaces
      (fun h => ((refreshNsCacheFromDirectory s2).handles h).inUse)
      (fun h => ((refreshNsCacheFromDirectory s2).handles h).generation) = some (0, 1) := by
    simp only [refreshNsCacheFromDirectory, hhandles]
    decide
  rw [hm2]
  dsimp only
  rw [openHandle, hrecord]
  exact ⟨_, _, rfl, rfl, hholds', hconfig, htxns, hentry, rfl⟩

theorem load_blockPort {s : Storage} {m : ℕ → List UInt8}
    (hentry : s.directory.entries 0 = newEntry [65] schemaM1a) (h : HoldsEmpty m) :
    loadNamespaceContent blockPort s m 0 = (some (View.ofRows [], 1, 0), m) := by
  have h0 : atLeastSeed 1 (decodeSlot (m (mediaDataOffset 0 0)) schemaM1a (some [65])) =
      .valid (1, View.ofRows []) := by
    rw [h.first, decodeSlot_emptySlot, atLeastSeed, if_neg (by decide)]
  have h1 : atLeastSeed 1 (decodeSlot (m (mediaDataOffset 0 1)) schemaM1a (some [65])) =
      .empty := by
    rw [h.second, decodeSlot_erased]
    rfl
  simp only [loadNamespaceContent, blockPort, hentry, newEntry, h0, h1, selectContent]

/-- The second one begins a transaction on it. -/
theorem begin_blockPort :
    (step blockPort ((Client.start bootStorage erasedBlocks).run blockPort
        [.open [65] schemaM1a]).storage
      ((Client.start bootStorage erasedBlocks).run blockPort [.open [65] schemaM1a]).media
      (.begin 9 .readWrite)).token = some 5 := by
  obtain ⟨s, m, hs, hm, hholds, hconfig, htxns, hentry, hhandle⟩ := open_blockPort
  simp only [Client.run, List.foldl_cons, List.foldl_nil, Client.call, Client.start, step, hm, hs]
  have hres : resolveHandle blockPort s 9 = some 0 := by
    have hunpack : unpackToken 32 9 hardMaxNamespaces = some (0, 1) := by decide
    simp only [resolveHandle, blockPort, hunpack, hhandle]
    rfl
  have hlive : liveTxns s = 0 := by
    simp only [liveTxns, htxns]
    rfl
  have hfree : freeRecord blockPort hardMaxTxns (fun t => (s.transactions t).inUse)
      (fun t => (s.transactions t).generation) = some (0, 1) := by
    simp only [htxns]
    decide
  have hload := load_blockPort hentry hholds
  rw [portBegin, hres]
  dsimp only
  rw [if_neg (by decide), hhandle, if_neg (by decide), hlive, hconfig, if_neg (by decide), hfree]
  have htoken : packToken 32 0 1 hardMaxTxns = 5 := by decide
  dsimp only
  rw [hload]
  exact congrArg some htoken

/-- The token of a transaction is issued with the call that begins it. -/
theorem Client.issued_begin {c : Client μ} {handle : ℕ} {mode : Mode} {token t : ℕ}
    (h : (step port c.storage c.media (.begin handle mode)).token = some token)
    (ht : c.clock = t) : (token, t) ∈ (c.call port (.begin handle mode)).txns.issued := by
  show _ ∈ (Option.map _ (step port c.storage c.media (.begin handle mode)).token).toList ++ _
  rw [h, ht]
  exact List.mem_cons_self ..

/-- The objects of that run, whose second call issues the token of a transaction. -/
theorem block_storage_discipline :
    let c := (Client.start bootStorage erasedBlocks).run blockPort
      [.open [65] schemaM1a, .begin 9 .readWrite]
    let o := c.storage.objects
    Discipline o ∧ Faithful (resolveHandle blockPort c.storage) o.handleRecords c.handles 32 ∧
      (∀ t, resolveTxn blockPort c.storage 5 = some t ↔ c.txns.object t = some 1) ∧
      Faithful (resolveIter blockPort c.storage) o.iterRecords c.iters 32 := by
  intro c o
  obtain ⟨hdiscipline, hhandles, htxns, hiters, -⟩ :=
    handle_discipline privateInit_blockPort [.open [65] schemaM1a, .begin 9 .readWrite]
  have hclock : ((Client.start bootStorage erasedBlocks).run blockPort
      [.open [65] schemaM1a]).clock = 1 := rfl
  have hissued := Client.issued_begin begin_blockPort hclock
  exact ⟨hdiscipline, hhandles, htxns.resolves 5 1 hissued, hiters⟩

end Ninlil.EspStorage
