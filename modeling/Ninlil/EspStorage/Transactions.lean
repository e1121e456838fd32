import Ninlil.EspStorage.Handles
import Ninlil.EspStorage.Staged

/-!
# Transactions over a run

* `portPut_cases`, `portErase_cases`: what a mutation does;
* `Keeps`: what the other calls do to the records of a pool;
* `mapAfter`, `stagedMap`: the map a transaction should show, followed over a run of calls;
* `Represents.step`, `Represents.run`: its view represents that map.
-/

namespace Ninlil.EspStorage

open Bytes Pool

/-- A key with its value. -/
abbrev Row := List UInt8 × List UInt8

/-- What a transaction shows: a value for some of the keys. -/
abbrev KeyMap := List UInt8 → Option (List UInt8)

variable {μ : Type} {port : Port μ} {s s' : Storage} {m : μ} {token : ℕ} {t : Fin hardMaxTxns}
  {i : Fin hardMaxIters}

/-! ### Mutations -/

/-- A put fails and changes nothing, or it replaces the view by a rebuilt one. -/
theorem portPut_cases (s : Storage) (token : ℕ) (key value : List UInt8) :
    ((portPut port s token key value).1 ≠ .ok ∧ (portPut port s token key value).2 = s) ∨
      ∃ t view, resolveTxn port s token = some t ∧ RowOk (key, value) ∧
        rebuildViewWithPut (s.transactions t).view key value = some view ∧
        portPut port s token key value = (.ok, setView s t view) := by
  unfold portPut
  cases hres : resolveTxn port s token with
  | none => exact .inl ⟨nofun, rfl⟩
  | some t =>
    dsimp only
    by_cases hbad : (s.transactions t).mode ≠ .readWrite ∨ key.length < 1 ∨ key.length > 255
    · rw [if_pos hbad]
      exact .inl ⟨nofun, rfl⟩
    rw [if_neg hbad]
    by_cases hvalue : value.length > maxStorageValueBytes
    · rw [if_pos hvalue]
      exact .inl ⟨nofun, rfl⟩
    rw [if_neg hvalue]
    cases hp : rebuildViewWithPut (s.transactions t).view key value with
    | none => exact .inl ⟨nofun, rfl⟩
    | some view =>
      have hrow : RowOk (key, value) := by
        unfold RowOk
        dsimp only
        omega
      exact .inr ⟨t, view, rfl, hrow, hp, rfl⟩

theorem portErase_cases (s : Storage) (token : ℕ) (key : List UInt8) :
    ((portErase port s token key).1 ≠ .ok ∧ (portErase port s token key).2 = s) ∨
      ∃ t view, resolveTxn port s token = some t ∧
        rebuildViewWithoutKey (s.transactions t).view key = some view ∧
        portErase port s token key = (.ok, setView s t view) := by
  unfold portErase
  cases hres : resolveTxn port s token with
  | none => exact .inl ⟨nofun, rfl⟩
  | some t =>
    dsimp only
    by_cases hbad : (s.transactions t).mode ≠ .readWrite ∨ key.length < 1 ∨ key.length > 255
    · rw [if_pos hbad]
      exact .inl ⟨nofun, rfl⟩
    rw [if_neg hbad]
    cases he : rebuildViewWithoutKey (s.transactions t).view key with
    | none => exact .inl ⟨nofun, rfl⟩
    | some view => exact .inr ⟨t, view, rfl, he, rfl⟩

theorem setView_transactions (s : Storage) (t t' : Fin hardMaxTxns) (view : View) :
    (setView s t view).transactions t' =
      if t' = t then { s.transactions t with view := view } else s.transactions t' := by
  unfold setView
  dsimp only
  rw [Function.update_apply]

/-! ### Other calls -/

/-- The records of the two pools are kept or freed. -/
def Keeps (s s' : Storage) : Prop :=
  (∀ t, s'.transactions t = s.transactions t ∨ (s'.transactions t).inUse = false) ∧
    ∀ i, s'.iterators i = s.iterators i ∨ (s'.iterators i).inUse = false

theorem Keeps.refl (s : Storage) : Keeps s s := ⟨fun _ => .inl rfl, fun _ => .inl rfl⟩

theorem Keeps.trans {s'' : Storage} (h : Keeps s s') (h' : Keeps s' s'') : Keeps s s'' := by
  refine ⟨fun t => ?_, fun i => ?_⟩
  · rcases h'.1 t with heq | hfree
    · rw [heq]
      exact h.1 t
    · exact .inr hfree
  · rcases h'.2 i with heq | hfree
    · rw [heq]
      exact h.2 i
    · exact .inr hfree

theorem keeps_of_objects_eq (h : s'.objects = s.objects) : Keeps s s' :=
  ⟨fun t => .inl (congrFun (congrArg Objects.transactions h) t),
    fun i => .inl (congrFun (congrArg Objects.iterators h) i)⟩

theorem keeps_consumeTxn (s : Storage) (t : Fin hardMaxTxns) : Keeps s (consumeTxn s t) := by
  have hobj := objects_consumeTxn s t
  refine ⟨fun t' => ?_, fun i => ?_⟩
  · have htxn : (consumeTxn s t).transactions t' = (s.objects.consume t).transactions t' :=
      congrFun (congrArg Objects.transactions hobj) t'
    rw [htxn]
    by_cases ht : t' = t
    · subst ht
      exact .inr (by rw [Objects.consume_transactions_self])
    · rw [Objects.consume_transactions_of_ne ht]
      exact .inl rfl
  · have hiter : (consumeTxn s t).iterators i = (s.objects.consume t).iterators i :=
      congrFun (congrArg Objects.iterators hobj) i
    rw [hiter]
    unfold Objects.consume
    dsimp only
    split_ifs
    · exact .inr rfl
    · exact .inl rfl

theorem keeps_closeTransactions (s : Storage) (h : Fin hardMaxNamespaces) (g : ℕ) :
    Keeps s (closeTransactions s h g) := by
  unfold closeTransactions
  generalize List.finRange hardMaxTxns = ts
  induction ts generalizing s with
  | nil => exact .refl s
  | cons t ts ih =>
    rw [List.foldl_cons]
    refine Keeps.trans ?_ (ih _)
    split_ifs
    · exact keeps_consumeTxn s t
    · exact .refl s

theorem keeps_portClose (s : Storage) (token : ℕ) : Keeps s (portClose port s token) := by
  unfold portClose
  split
  · exact .refl s
  · rename_i h _
    exact (keeps_closeTransactions s h (s.handles h).generation).trans
      ⟨fun _ => .inl rfl, fun _ => .inl rfl⟩

theorem keeps_openHandle (s : Storage) (m : μ) (i : Fin hardMaxNamespaces) :
    Keeps s (openHandle port s m i).storage := by
  unfold openHandle
  split
  · exact .refl s
  · exact ⟨fun _ => .inl rfl, fun _ => .inl rfl⟩

theorem keeps_createNamespace (s : Storage) (m : μ) (i : Fin hardMaxNamespaces)
    (name : List UInt8) (schema : UInt32) :
    Keeps s (createNamespace port s m i name schema).storage := by
  unfold createNamespace
  split
  · exact keeps_of_objects_eq rfl
  · exact keeps_of_objects_eq rfl
  · rename_i m' _
    dsimp only
    split_ifs
    · exact keeps_of_objects_eq rfl
    · have hobj := @objects_commitDirectory μ port (setEntry s i (newEntry name schema)) m'
      split
      · rename_i heq
        rw [heq] at hobj
        exact keeps_of_objects_eq hobj
      · rename_i heq
        rw [heq] at hobj
        exact keeps_of_objects_eq hobj
      · rename_i heq
        rw [heq] at hobj
        refine Keeps.trans (keeps_of_objects_eq ?_) (keeps_openHandle _ _ i)
        rw [objects_refreshNsCacheFromDirectory]
        exact hobj

theorem keeps_portOpen (s : Storage) (m : μ) (name : List UInt8) (schema : UInt32) :
    Keeps s (portOpen port s m name schema).storage := by
  unfold portOpen
  split_ifs
  · exact .refl s
  · exact .refl s
  · split
    · exact .refl s
    · rename_i s' m' he
      have hkeep : Keeps s s' := keeps_of_objects_eq (objects_ensureDirectory he)
      split
      · split_ifs
        · exact hkeep
        · exact hkeep
        · exact hkeep.trans (keeps_openHandle _ _ _)
      · split
        · exact hkeep
        · exact hkeep.trans (keeps_createNamespace _ _ _ _ _)

theorem keeps_portCommit (s : Storage) (m : μ) (token : ℕ) (durability : Durability) :
    Keeps s (portCommit port s m token durability).storage := by
  unfold portCommit
  split
  · exact .refl s
  · rename_i t _
    dsimp only
    split
    · exact keeps_consumeTxn s t
    split
    · exact keeps_consumeTxn s t
    split
    · exact keeps_consumeTxn s t
    split
    · exact keeps_consumeTxn s t
    split
    · exact keeps_consumeTxn s t
    split
    · exact keeps_consumeTxn s t
    · exact Keeps.trans ⟨fun _ => .inl rfl, fun _ => .inl rfl⟩ (keeps_consumeTxn _ t)

theorem keeps_portRollback (s : Storage) (token : ℕ) :
    Keeps s (portRollback port s token).2 := by
  unfold portRollback
  split
  · exact .refl s
  · exact keeps_consumeTxn s _

/-! ### The map of a transaction -/

variable (port)

/-- The map of the transaction at `t` after a call. -/
def mapAfter (s : Storage) (t : Fin hardMaxTxns) (op : Op) (map : KeyMap) : KeyMap :=
  match op with
  | .put txn key value =>
    if resolveTxn port s txn = some t ∧ (portPut port s txn key value).1 = .ok then
      Function.update map key (some value)
    else map
  | .erase txn key =>
    if resolveTxn port s txn = some t ∧ (portErase port s txn key).1 = .ok then
      Function.update map key none
    else map
  | _ => map

/-- The map after a run of calls. -/
def stagedMap (t : Fin hardMaxTxns) : Client μ → List Op → KeyMap → KeyMap
  | _, [], map => map
  | c, op :: ops, map => stagedMap t (c.call port op) ops (mapAfter port c.storage t op map)

variable {port}

/-- A call that keeps or frees a record that is in use before and after it has kept it. -/
theorem Keeps.transaction_eq (h : Keeps s s') (hu : (s'.transactions t).inUse = true) :
    s'.transactions t = s.transactions t := by
  rcases h.1 t with heq | hfree
  · exact heq
  · rw [hu] at hfree
    cases hfree

theorem Keeps.iterator_eq (h : Keeps s s') (hu : (s'.iterators i).inUse = true) :
    s'.iterators i = s.iterators i := by
  rcases h.2 i with heq | hfree
  · exact heq
  · rw [hu] at hfree
    cases hfree

/-- Whether a call is a put or an erase. -/
def Op.edits : Op → Bool
  | .put .. => true
  | .erase .. => true
  | _ => false

theorem portIterNext_transactions (s : Storage) (token keyCapacity valueCapacity : ℕ) :
    (portIterNext port s token keyCapacity valueCapacity).2.2.2.transactions = s.transactions := by
  unfold portIterNext
  split
  · rfl
  · dsimp only
    split_ifs
    · rfl
    · split
      · rfl
      · split_ifs <;> rfl

theorem portIterOpen_transactions (s : Storage) (token : ℕ) (keyPrefix : List UInt8) :
    (portIterOpen port s token keyPrefix).2.2.transactions = s.transactions := by
  unfold portIterOpen
  split
  · rfl
  · split_ifs
    · rfl
    · rfl
    · split <;> rfl

theorem portIterClose_transactions (s : Storage) (token : ℕ) :
    (portIterClose port s token).transactions = s.transactions := by
  unfold portIterClose
  split <;> rfl

/-- A begin takes a free record, and leaves the others. -/
theorem portBegin_pools (s : Storage) (m : μ) (token : ℕ) (mode : Mode) :
    (portBegin port s m token mode).storage.iterators = s.iterators ∧
      ((s.transactions t).inUse = true →
        (portBegin port s m token mode).storage.transactions t = s.transactions t) := by
  unfold portBegin
  split
  · exact ⟨rfl, fun _ => rfl⟩
  · rename_i h _
    split_ifs
    · exact ⟨rfl, fun _ => rfl⟩
    · exact ⟨rfl, fun _ => rfl⟩
    · exact ⟨rfl, fun _ => rfl⟩
    · split
      · exact ⟨rfl, fun _ => rfl⟩
      · rename_i t' g hf
        split
        · exact ⟨rfl, fun _ => rfl⟩
        · refine ⟨rfl, fun hu => ?_⟩
          have hne : t ≠ t' := by
            rintro rfl
            rw [(freeRecord_eq_some hf).1] at hu
            cases hu
          exact Function.update_of_ne hne _ _

/-- A call that is no put and no erase leaves a transaction that stays in use. -/
theorem step_transaction (s : Storage) (m : μ) {op : Op} (hop : op.edits = false)
    (hu : (s.transactions t).inUse = true)
    (hu' : ((step port s m op).storage.transactions t).inUse = true) :
    (step port s m op).storage.transactions t = s.transactions t := by
  cases op with
  | «open» name schema => exact (keeps_portOpen s m name schema).transaction_eq hu'
  | close handle => exact (keeps_portClose s handle).transaction_eq hu'
  | begin handle mode => exact (portBegin_pools s m handle mode).2 hu
  | get txn key capacity => rfl
  | put | erase => cases hop
  | iterOpen txn keyPrefix => exact congrFun (portIterOpen_transactions s txn keyPrefix) t
  | iterNext iter keyCapacity valueCapacity =>
    exact congrFun (portIterNext_transactions s iter keyCapacity valueCapacity) t
  | iterClose iter => exact congrFun (portIterClose_transactions s iter) t
  | capacity handle => rfl
  | commit txn durability => exact (keeps_portCommit s m txn durability).transaction_eq hu'
  | rollback txn => exact (keeps_portRollback s txn).transaction_eq hu'

/-- What a call does to a transaction that stays in use. -/
theorem Represents.step {map : KeyMap} (h : Represents (s.transactions t).view map) (op : Op)
    (hu : (s.transactions t).inUse = true)
    (hu' : ((step port s m op).storage.transactions t).inUse = true) :
    Represents ((EspStorage.step port s m op).storage.transactions t).view
        (mapAfter port s t op map) ∧
      ((EspStorage.step port s m op).storage.transactions t).mode = (s.transactions t).mode := by
  cases hop : op.edits with
  | false =>
    rw [step_transaction s m hop hu hu']
    have hmap : mapAfter port s t op map = map := by
      cases op <;> first | rfl | cases hop
    rw [hmap]
    exact ⟨h, rfl⟩
  | true =>
    cases op with
    | put txn key value =>
      simp only [EspStorage.step, mapAfter]
      rcases @portPut_cases _ port s txn key value with
        ⟨hst, hs⟩ | ⟨t', view, hres, hrow, hp, heq⟩
      · rw [hs, if_neg fun hc => hst hc.2]
        exact ⟨h, rfl⟩
      · rw [heq, hres, setView_transactions]
        by_cases ht : t = t'
        · subst ht
          rw [if_pos rfl, if_pos ⟨rfl, rfl⟩]
          exact ⟨h.put hrow hp, rfl⟩
        · rw [if_neg ht, if_neg fun hc => ht (Option.some.inj hc.1).symm]
          exact ⟨h, rfl⟩
    | erase txn key =>
      simp only [EspStorage.step, mapAfter]
      rcases @portErase_cases _ port s txn key with
        ⟨hst, hs⟩ | ⟨t', view, hres, he, heq⟩
      · rw [hs, if_neg fun hc => hst hc.2]
        exact ⟨h, rfl⟩
      · rw [heq, hres, setView_transactions]
        by_cases ht : t = t'
        · subst ht
          rw [if_pos rfl, if_pos ⟨rfl, rfl⟩]
          exact ⟨h.erase he, rfl⟩
        · rw [if_neg ht, if_neg fun hc => ht (Option.some.inj hc.1).symm]
          exact ⟨h, rfl⟩
    | _ => cases hop

/-! ### Runs -/

variable {c : Client μ} {map : KeyMap}

/-- A slot that is live after a run was live all along, when no call lowers its generation and none
brings it back in the same one. -/
theorem live_of_run {live : Storage → Bool} {gen : Storage → ℕ}
    (hstep : ∀ (c : Client μ) (op : Op), gen c.storage ≤ gen (c.call port op).storage ∧
      (gen (c.call port op).storage ≤ gen c.storage → live (c.call port op).storage = true →
        live c.storage = true))
    (ops : List Op) {g : ℕ} (hg : g ≤ gen c.storage) (hu : live (c.run port ops).storage = true)
    (heq : gen (c.run port ops).storage = g) :
    live c.storage = true ∧ gen c.storage = g := by
  induction ops generalizing c with
  | nil => exact ⟨hu, heq⟩
  | cons op ops ih =>
    obtain ⟨hle, hback⟩ := hstep c op
    obtain ⟨hu', heq'⟩ := ih (le_trans hg hle) hu heq
    exact ⟨hback (heq' ▸ hg) hu', le_antisymm (heq' ▸ hle) hg⟩

theorem txn_live_of_run : (ops : List Op) → {g : ℕ} →
    g ≤ (c.storage.transactions t).generation →
    ((c.run port ops).storage.transactions t).inUse = true →
    ((c.run port ops).storage.transactions t).generation = g →
    (c.storage.transactions t).inUse = true ∧ (c.storage.transactions t).generation = g :=
  @live_of_run μ port c (fun s => (s.transactions t).inUse)
    (fun s => (s.transactions t).generation) fun c op =>
    have hchange := (@step_effect _ port c.storage c.media op).txn_change
    ⟨hchange.generation_le t, hchange.inUse_of_le⟩

theorem iter_live_of_run : (ops : List Op) → {g : ℕ} →
    g ≤ (c.storage.iterators i).generation →
    ((c.run port ops).storage.iterators i).inUse = true →
    ((c.run port ops).storage.iterators i).generation = g →
    (c.storage.iterators i).inUse = true ∧ (c.storage.iterators i).generation = g :=
  @live_of_run μ port c (fun s => (s.iterators i).inUse)
    (fun s => (s.iterators i).generation) fun c op =>
    have hchange := (@step_effect _ port c.storage c.media op).iter_change
    ⟨hchange.generation_le i, hchange.inUse_of_le⟩

/-- **The view of a transaction represents its map** after any run of calls that leaves it live. -/
theorem Represents.run (h : Represents (c.storage.transactions t).view map) (ops : List Op)
    (hu : ((c.run port ops).storage.transactions t).inUse = true)
    (heq : ((c.run port ops).storage.transactions t).generation =
      (c.storage.transactions t).generation) :
    Represents ((c.run port ops).storage.transactions t).view (stagedMap port t c ops map) ∧
      ((c.run port ops).storage.transactions t).mode = (c.storage.transactions t).mode := by
  induction ops generalizing c map with
  | nil => exact ⟨h, rfl⟩
  | cons op ops ih =>
    have hchange := (@step_effect _ port c.storage c.media op).txn_change
    have hle : (c.storage.transactions t).generation ≤
        ((c.call port op).storage.transactions t).generation := hchange.generation_le t
    obtain ⟨hu0, -⟩ := txn_live_of_run (op :: ops) le_rfl hu heq
    obtain ⟨hu1, heq1⟩ := @txn_live_of_run μ port t (c.call port op) ops _ hle hu heq
    obtain ⟨hrep, hmode⟩ := h.step op hu0 hu1
    obtain ⟨hrep', hmode'⟩ := ih hrep hu (heq.trans heq1.symm)
    exact ⟨hrep', hmode'.trans hmode⟩

end Ninlil.EspStorage
