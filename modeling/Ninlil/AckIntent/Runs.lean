import Ninlil.AckIntent.Ledger

/-!
# Acknowledgement burns and the control reserve over whole runs

Any sequence of calls on the ledger of generated acknowledgements, at any clock values.

* `Call`, `Trace`, `runOf`: the calls, and the ledger they reach beside the burns charged to each
  identity since its row last expired;
* `Charged`: rows and charges agree, and both budgets hold;
* `Balanced`: the control reserve is held in the states that hold it;
* `acks_within_budget`: the budgets hold in every run, and the reserve is balanced in every run
  that never arms an intent over one that holds it.
-/

namespace Ninlil.AckIntent

open Tables
open Function (update update_of_ne update_self update_eq_self)

variable {led led' : Ledger} {id id' : Identity} {now : UInt64} {i : Fin ledgerRows}

/-! ### Calls -/

/-- A call on the ledger. -/
inductive Call
  | armPending (id : Identity) (now ownerDeadlineMono : UInt64)
  | intentTick (now : UInt64)
  | enterReserve
  | afterBurnOk (now : UInt64)
  | enterLink
  | markAcked
  | markDrop
  | retryOrDrop (now : UInt64)
  | bindOwner (transferHandle : UInt64) (fragCount : UInt16) (ownerExpiryMono : UInt64)
  | ledgerTick (now : UInt64)

/-- What a call returns and the ledger it leaves. -/
def Call.apply (led : Ledger) : Call → Status × Ledger
  | .armPending id now deadline => AckIntent.armPending led id now deadline
  | .intentTick now => AckIntent.intentTick led now
  | .enterReserve => AckIntent.enterReserve led
  | .afterBurnOk now => AckIntent.afterBurnOk led now
  | .enterLink => AckIntent.enterLink led
  | .markAcked => AckIntent.markAcked led
  | .markDrop => AckIntent.markDrop led
  | .retryOrDrop now => AckIntent.retryOrDrop led now
  | .bindOwner handle fragCount expiry => (.ok, AckIntent.bindOwner led handle fragCount expiry)
  | .ledgerTick now => (.ok, AckIntent.ledgerTick led now)

/-- The ledger after the rows have expired that expire in the call. -/
def Call.expiry (led : Ledger) : Call → Ledger
  | .intentTick now | .ledgerTick now => AckIntent.ledgerTick led now
  | .afterBurnOk now =>
    if (led.intentState == .reserve || led.intentState == .burn) && idValid led.intentId then
      expireRows led now
    else led
  | _ => led

/-- The row of the identity expires in the call. -/
def Call.expires (led : Ledger) (c : Call) (id : Identity) : Bool :=
  (findRow led id).isSome && (findRow (c.expiry led) id).isNone

/-- The identity the call charges a burn to. -/
def Call.charges (led : Ledger) : Call → Option Identity
  | .afterBurnOk now => if (AckIntent.afterBurnOk led now).1 = .ok then some led.intentId else none
  | _ => none

/-- A ledger, and the burns charged to each identity since its row last expired. -/
structure Trace where
  led : Ledger
  charged : Identity → ℕ

/-- One call. -/
def Trace.step (t : Trace) (c : Call) : Trace where
  led := (c.apply t.led).2
  charged := fun id => (if c.expires t.led id then 0 else t.charged id) +
    (if c.charges t.led = some id then 1 else 0)

/-- The calls in order, from a fresh ledger. -/
def runOf (calls : List Call) : Trace := calls.foldl Trace.step ⟨init, fun _ => 0⟩

theorem runOf_snoc (calls : List Call) (c : Call) :
    runOf (calls ++ [c]) = (runOf calls).step c := by
  simp [runOf]

/-- What every call keeps, and a fresh ledger has, holds after any calls. -/
theorem runOf_keeps {P : Trace → Prop} (hinit : P ⟨init, fun _ => 0⟩)
    (hstep : ∀ t c, P t → P (t.step c)) (calls : List Call) : P (runOf calls) := by
  induction calls using List.reverseRecOn with
  | nil => exact hinit
  | append_singleton calls c ih =>
    rw [runOf_snoc]
    exact hstep _ c ih

/-! ### What the calls do to the rows -/

@[simp] theorem intentClearDrop_rows : (intentClearDrop led).rows = led.rows := rfl

@[simp] theorem reserveRelease_rows : (reserveRelease led).rows = led.rows := by
  unfold reserveRelease
  split <;> rfl

@[simp] theorem releaseHeld_rows : (releaseHeld led).rows = led.rows := by
  unfold releaseHeld
  split
  · exact reserveRelease_rows
  · rfl

theorem armPending_rows (deadline : UInt64) :
    (armPending led id now deadline).2.rows = led.rows := by
  unfold armPending
  split_ifs <;> rfl

theorem intentTick_rows : (intentTick led now).2.rows = (ledgerTick led now).rows := by
  unfold intentTick
  dsimp only
  split_ifs <;> simp

theorem reserveAcquire_rows : (reserveAcquire led).2.rows = led.rows := by
  unfold reserveAcquire
  split <;> rfl

theorem enterReserve_rows : (enterReserve led).2.rows = led.rows := by
  unfold enterReserve
  split
  · rfl
  · have hrows : (reserveAcquire led).2.rows = led.rows := reserveAcquire_rows
    split
    · next heq => rw [heq] at hrows; exact hrows
    · next heq => rw [heq] at hrows; exact hrows

theorem enterLink_rows : (enterLink led).2.rows = led.rows := by
  unfold enterLink
  split <;> rfl

theorem retryOrDrop_rows : (retryOrDrop led now).2.rows = led.rows := by
  unfold retryOrDrop
  dsimp only
  split_ifs <;> simp

/-! ### Charging -/

/-- The row that is charged: the one the identity has, or a fresh one in a free slot. -/
theorem rowToCharge_eq_some {row : Row} (h : rowToCharge led id = some (i, row)) :
    (led.rows i = some row ∧ row.id = id) ∨
    (led.rows i = none ∧ findRow led id = none ∧ row = ⟨id, 0, 0, led.ownerExpiryMono⟩) := by
  unfold rowToCharge at h
  cases hfind : findRow led id with
  | some found =>
    rw [hfind] at h
    cases h
    obtain ⟨hrow, hid⟩ := scan_eq_some hfind
    exact .inl ⟨hrow, by simpa using hid⟩
  | none =>
    rw [hfind] at h
    obtain ⟨j, hfree, heq⟩ := Option.map_eq_some_iff.1 h
    cases heq
    exact .inr ⟨firstFree_eq_some hfree, rfl, rfl⟩

theorem mayBurn_ok (h : mayBurn led id now = .ok) :
    idValid id = true ∧ (findRow led id).elim 0 (fun r => r.2.burnsUsed) < semanticMax ∧
      aggregateBurns led id.transferHandle < aggregateLimit id.fragCount := by
  unfold mayBurn at h
  dsimp only at h
  split_ifs at h with hvalid howner hpast hused hlimit
  exact ⟨by simpa using hvalid, by omega, by omega⟩

/-- A burn that is charged: the budgets had room, and one row has one burn more. -/
theorem chargeBurn_ok (h : (chargeBurn led id now).1 = .ok) :
    idValid id = true ∧
    aggregateBurns (expireRows led now) id.transferHandle < aggregateLimit id.fragCount ∧
    ∃ i row, rowToCharge (expireRows led now) id = some (i, row) ∧ row.burnsUsed < semanticMax ∧
      (chargeBurn led id now).2 = { expireRows led now with
        rows := update (expireRows led now).rows i
          (some { row with burnsUsed := row.burnsUsed + 1, lastBurnMono := now }) } := by
  unfold chargeBurn at h ⊢
  split at h
  · cases h
  · rename_i hvalid
    rw [if_neg hvalid]
    dsimp only at h ⊢
    cases hmay : mayBurn (expireRows led now) id now with
    | ok =>
      rw [hmay] at h
      dsimp only at h ⊢
      cases hrow : rowToCharge (expireRows led now) id with
      | none =>
        rw [hrow] at h
        cases h
      | some r =>
        obtain ⟨i, row⟩ := r
        rw [hrow] at h
        dsimp only at h ⊢
        by_cases hfull : semanticMax ≤ row.burnsUsed
        · rw [if_pos hfull] at h
          cases h
        · rw [if_neg hfull]
          exact ⟨(mayBurn_ok hmay).1, (mayBurn_ok hmay).2.2, i, row, rfl, by omega, rfl⟩
    | invalid | resource | expired => rw [hmay] at h; cases h

/-- A burn that is refused: no row changes, but those past their expiry are cleared. -/
theorem chargeBurn_refused (h : (chargeBurn led id now).1 ≠ .ok) :
    (chargeBurn led id now).2 = if idValid id then expireRows led now else led := by
  unfold chargeBurn at h ⊢
  split
  · rename_i hvalid
    rw [if_neg (by simpa using hvalid)]
  · rename_i hvalid
    rw [if_neg hvalid] at h
    rw [if_pos (by simpa using hvalid)]
    dsimp only at h ⊢
    cases hmay : mayBurn (expireRows led now) id now with
    | ok =>
      rw [hmay] at h
      dsimp only at h ⊢
      cases hrow : rowToCharge (expireRows led now) id with
      | none => rfl
      | some r =>
        obtain ⟨i, row⟩ := r
        rw [hrow] at h
        dsimp only at h ⊢
        by_cases hfull : semanticMax ≤ row.burnsUsed
        · rw [if_pos hfull]
          rcases rowToCharge_eq_some hrow with ⟨hat, -⟩ | ⟨-, -, rfl⟩
          · rw [← hat, update_eq_self]
          · exact absurd hfull (Nat.not_succ_le_zero 1)
        · rw [if_neg hfull] at h
          exact absurd rfl h
    | invalid | resource | expired => rfl

/-- A charge changes rows only. -/
theorem chargeBurn_reserve : (chargeBurn led id now).2.controlReserveHeld =
    led.controlReserveHeld := by
  by_cases h : (chargeBurn led id now).1 = .ok
  · obtain ⟨-, -, i, row, -, -, heq⟩ := chargeBurn_ok h
    rw [heq]
    rfl
  · rw [chargeBurn_refused h]
    split <;> rfl

theorem afterBurnOk_ok (h : (afterBurnOk led now).1 = .ok) :
    (led.intentState == .reserve || led.intentState == .burn) = true ∧
    (chargeBurn led led.intentId now).1 = .ok ∧
    (afterBurnOk led now).2 =
      { (chargeBurn led led.intentId now).2 with intentState := .sealing } := by
  unfold afterBurnOk at h ⊢
  split at h
  · cases h
  · rename_i hstate
    rw [if_neg hstate]
    refine ⟨by simpa [Decidable.or_iff_not_imp_left] using hstate, ?_⟩
    split at h
    · rename_i heq
      rw [heq]
      exact ⟨rfl, rfl⟩
    · rename_i hne heq
      exact absurd h hne

theorem afterBurnOk_refused (h : (afterBurnOk led now).1 ≠ .ok) :
    (afterBurnOk led now).2 = led ∧ ¬(led.intentState = .reserve ∨ led.intentState = .burn) ∨
    (led.intentState = .reserve ∨ led.intentState = .burn) ∧
      (chargeBurn led led.intentId now).1 ≠ .ok ∧
      (afterBurnOk led now).2 =
        intentClearDrop (reserveRelease (chargeBurn led led.intentId now).2) := by
  unfold afterBurnOk at h ⊢
  split
  · rename_i hstate
    exact .inl ⟨rfl, by simpa using hstate⟩
  · rename_i hstate
    rw [if_neg hstate] at h
    refine .inr ⟨by simpa [Decidable.or_iff_not_imp_left] using hstate, ?_⟩
    split at h
    · exact absurd rfl h
    · rename_i hne heq
      rw [heq]
      exact ⟨h, rfl⟩

/-! ### Rows and charges -/

theorem findRow_eq_none : findRow led id = none ↔ ∀ i r, led.rows i = some r → r.id ≠ id := by
  constructor
  · intro h i r hi hid
    have hp := scan_eq_none h hi
    rw [hid, beq_self_eq_true] at hp
    cases hp
  · intro h
    cases hfind : findRow led id with
    | none => rfl
    | some found =>
      obtain ⟨hi, hid⟩ := scan_eq_some hfind
      exact absurd (by simpa using hid) (h _ _ hi)

theorem findRow_isSome {r : Row} (hi : led.rows i = some r) : (findRow led r.id).isSome := by
  rw [Option.isSome_iff_ne_none]
  intro hnone
  exact findRow_eq_none.1 hnone i r hi rfl

/-- The burns a row adds to a transfer, counting identities of at most `n` fragments. -/
def Row.burnsUpTo (handle : UInt64) (n : UInt16) (r : Row) : ℕ :=
  if r.id.transferHandle = handle ∧ r.id.fragCount ≤ n then r.burnsUsed else 0

theorem Row.burnsUpTo_le (handle : UInt64) (n : UInt16) (r : Row) :
    r.burnsUpTo handle n ≤ r.burnsOf handle := by
  unfold Row.burnsUpTo Row.burnsOf
  split
  · rename_i h
    rw [if_pos h.1]
  · exact Nat.zero_le _

theorem aggregateLimit_mono {m n : UInt16} (h : m ≤ n) : aggregateLimit m ≤ aggregateLimit n :=
  min_le_min_right _ (Nat.mul_le_mul_right 2 (UInt16.le_iff_toNat_le.1 h))

/-- Rows and charges agree, and both budgets hold. -/
structure Charged (t : Trace) : Prop where
  unique : ∀ i j r r', t.led.rows i = some r → t.led.rows j = some r' → r.id = r'.id → i = j
  row : ∀ i r, t.led.rows i = some r →
    r.burnsUsed ≤ semanticMax ∧ t.charged r.id = r.burnsUsed ∧ r.id.transferHandle ≠ 0
  noRow : ∀ id, findRow t.led id = none → t.charged id = 0
  aggregate : ∀ handle n, weight (Row.burnsUpTo handle n) t.led.rows ≤ aggregateLimit n

variable {charged : Identity → ℕ}

theorem Charged.init : Charged ⟨init, fun _ => 0⟩ where
  unique := by rintro i j r r' ⟨⟩
  row := by rintro i r ⟨⟩
  noRow _ _ := rfl
  aggregate handle n := by
    show weight _ (fun _ : Fin ledgerRows => none) ≤ _
    rw [weight_empty]
    exact Nat.zero_le _

/-- Rows that are cleared take their charges with them. -/
theorem Charged.expire (h : Charged ⟨led, charged⟩) {p : Row → Bool}
    (hrows : led'.rows = fun i => (led.rows i).filter p) :
    Charged ⟨led', fun id =>
      if (findRow led id).isSome && (findRow led' id).isNone then 0 else charged id⟩ := by
  have hold : ∀ i r, led'.rows i = some r → led.rows i = some r := by
    intro i r hi
    rw [hrows] at hi
    exact (Option.filter_eq_some_iff.1 hi).1
  constructor
  · intro i j r r' hi hj
    exact h.unique i j r r' (hold i r hi) (hold j r' hj)
  · intro i r hi
    obtain ⟨hmax, hcharged, hhandle⟩ := h.row i r (hold i r hi)
    have hsome := findRow_isSome hi
    refine ⟨hmax, ?_, hhandle⟩
    show (if (findRow led r.id).isSome && (findRow led' r.id).isNone then 0 else
      charged r.id) = r.burnsUsed
    rw [if_neg (by simp [Option.isNone_iff_eq_none, Option.isSome_iff_ne_none.1 hsome])]
    exact hcharged
  · intro id hnone
    have hnone' : findRow led' id = none := hnone
    show (if (findRow led id).isSome && (findRow led' id).isNone then 0 else charged id) = 0
    cases hfind : findRow led id with
    | none => simpa using h.noRow id hfind
    | some r => simp [hnone']
  · intro handle n
    show weight _ led'.rows ≤ _
    rw [hrows]
    exact (weight_filter_le p).trans (h.aggregate handle n)

/-- One burn more for one identity. -/
theorem Charged.charge {row : Row} (h : Charged ⟨led, charged⟩) (hvalid : idValid id = true)
    (hroom : aggregateBurns led id.transferHandle < aggregateLimit id.fragCount)
    (hrow : rowToCharge led id = some (i, row)) (hburns : row.burnsUsed < semanticMax)
    (hrows : led'.rows = update led.rows i
      (some { row with burnsUsed := row.burnsUsed + 1, lastBurnMono := now })) :
    Charged ⟨led', fun id' => charged id' + (if some id = some id' then 1 else 0)⟩ := by
  have hhandle : id.transferHandle ≠ 0 := by
    intro hzero
    simp [idValid, hzero] at hvalid
  -- the slot that is charged belongs to the identity already, or nobody has it
  have hslot : row.id = id ∧ charged id = row.burnsUsed ∧
      (∀ w : Row → ℕ, (∀ r, r.burnsUsed = 0 → w r = 0) → (led.rows i).elim 0 w = w row) ∧
      ∀ j r, j ≠ i → led.rows j = some r → r.id ≠ id := by
    rcases rowToCharge_eq_some hrow with ⟨hi, hid⟩ | ⟨hi, hnone, rfl⟩
    · refine ⟨hid, hid ▸ (h.row i row hi).2.1, fun w _ => by rw [hi]; rfl, ?_⟩
      intro j r hj hjr heq
      exact hj (h.unique j i r row hjr hi (heq.trans hid.symm))
    · refine ⟨rfl, h.noRow id hnone, fun w hw => ?_, ?_⟩
      · rw [hi, hw _ rfl]
        rfl
      · intro j r _ hjr
        exact findRow_eq_none.1 hnone j r hjr
  obtain ⟨hid, hcount, hweight, hother⟩ := hslot
  have hat : ∀ j r, led'.rows j = some r →
      (j = i ∧ r = { row with burnsUsed := row.burnsUsed + 1, lastBurnMono := now }) ∨
      (j ≠ i ∧ led.rows j = some r) := by
    intro j r hj
    rw [hrows] at hj
    by_cases hji : j = i
    · subst hji
      rw [update_self] at hj
      exact .inl ⟨rfl, (Option.some.inj hj).symm⟩
    · rw [update_of_ne hji] at hj
      exact .inr ⟨hji, hj⟩
  constructor
  · intro j k r r' hj hk heq
    rcases hat j r hj with ⟨rfl, rfl⟩ | ⟨hji, hj⟩ <;> rcases hat k r' hk with ⟨rfl, rfl⟩ | ⟨hki, hk⟩
    · rfl
    · exact absurd (heq.symm.trans hid) (hother k r' hki hk)
    · exact absurd (heq.trans hid) (hother j r hji hj)
    · exact h.unique j k r r' hj hk heq
  · intro j r hj
    rcases hat j r hj with ⟨rfl, rfl⟩ | ⟨hji, hj⟩
    · refine ⟨hburns, ?_, hid ▸ hhandle⟩
      show charged row.id + (if some id = some row.id then 1 else 0) = row.burnsUsed + 1
      rw [hid, if_pos rfl, hcount]
    · obtain ⟨hmax, hcharged, hne⟩ := h.row j r hj
      refine ⟨hmax, ?_, hne⟩
      show charged r.id + (if some id = some r.id then 1 else 0) = r.burnsUsed
      rw [if_neg fun heq => hother j r hji hj (Option.some.inj heq).symm]
      exact hcharged
  · intro id' hnone
    have hne : id' ≠ id := by
      intro heq
      refine findRow_eq_none.1 hnone i
        { row with burnsUsed := row.burnsUsed + 1, lastBurnMono := now } ?_ (hid.trans heq.symm)
      show led'.rows i = _
      rw [hrows, update_self]
    have hold : findRow led id' = none := by
      refine findRow_eq_none.2 fun j r hj heq => ?_
      by_cases hji : j = i
      · subst hji
        rcases rowToCharge_eq_some hrow with ⟨hi, hid'⟩ | ⟨hi, -, -⟩
        · rw [hj] at hi
          cases hi
          exact hne (heq.symm.trans hid')
        · rw [hj] at hi
          cases hi
      · refine findRow_eq_none.1 hnone j r ?_ heq
        show led'.rows j = _
        rw [hrows, update_of_ne hji, hj]
    show charged id' + (if some id = some id' then 1 else 0) = 0
    rw [if_neg fun heq => hne (Option.some.inj heq).symm]
    exact h.noRow id' hold
  · intro handle n
    show weight _ led'.rows ≤ _
    have hsum := @weight_update ledgerRows Row led.rows i (Row.burnsUpTo handle n)
      (some { row with burnsUsed := row.burnsUsed + 1, lastBurnMono := now })
    have hzero : ∀ r : Row, r.burnsUsed = 0 → r.burnsUpTo handle n = 0 := by
      intro r hr
      simp [Row.burnsUpTo, hr]
    rw [hweight _ hzero, ← hrows, Option.elim_some] at hsum
    have hbound : weight (Row.burnsUpTo handle n) led.rows ≤ aggregateLimit n :=
      h.aggregate handle n
    by_cases hmine : row.id.transferHandle = handle ∧ row.id.fragCount ≤ n
    · have hle : weight (Row.burnsUpTo handle n) led.rows ≤ weight (Row.burnsOf handle) led.rows :=
        weight_mono fun r => r.burnsUpTo_le handle n
      have hhere : id.transferHandle = handle := hid ▸ hmine.1
      have hcap : aggregateLimit id.fragCount ≤ aggregateLimit n :=
        aggregateLimit_mono (hid ▸ hmine.2)
      rw [aggregateBurns, if_neg hhandle, hhere] at hroom
      simp only [Row.burnsUpTo, if_pos hmine] at hsum hle ⊢
      omega
    · simp only [Row.burnsUpTo, if_neg hmine] at hsum hbound ⊢
      omega

/-! ### Every call -/

theorem ledgerTick_rows :
    ∃ p : Row → Bool, (ledgerTick led now).rows = fun i => (led.rows i).filter p := by
  unfold ledgerTick
  dsimp only
  split
  · refine ⟨fun r => !r.pastExpiry now && r.id.transferHandle != led.ownerTransferHandle, ?_⟩
    funext i
    exact Option.filter_filter ..
  · exact ⟨_, rfl⟩

theorem Call.expiry_rows (c : Call) :
    ∃ p : Row → Bool, (c.expiry led).rows = fun i => (led.rows i).filter p := by
  have hsame : ∃ p : Row → Bool, led.rows = fun i => (led.rows i).filter p := by
    refine ⟨fun _ => true, ?_⟩
    funext i
    cases led.rows i <;> rfl
  cases c with
  | intentTick | ledgerTick => exact ledgerTick_rows
  | afterBurnOk now =>
    unfold Call.expiry
    dsimp only
    split
    · exact ⟨_, rfl⟩
    · exact hsame
  | _ => exact hsame

/-- A call that charges nothing leaves the rows, but for those that expire. -/
theorem Call.apply_rows (c : Call) (h : c.charges led = none) :
    (c.apply led).2.rows = (c.expiry led).rows := by
  cases c with
  | armPending id now deadline => exact armPending_rows deadline
  | intentTick now => exact intentTick_rows
  | enterReserve => exact enterReserve_rows
  | afterBurnOk now =>
    have hne : (AckIntent.afterBurnOk led now).1 ≠ .ok := by
      intro hok
      rw [Call.charges, if_pos hok] at h
      cases h
    show (AckIntent.afterBurnOk led now).2.rows = _
    unfold Call.expiry
    dsimp only
    rcases afterBurnOk_refused hne with ⟨heq, hstate⟩ | ⟨hstate, hrefused, heq⟩
    · rw [heq, if_neg (by simp only [Bool.and_eq_true, Bool.or_eq_true, beq_iff_eq]; tauto)]
    · rw [heq, intentClearDrop_rows, reserveRelease_rows, chargeBurn_refused hrefused]
      have hstate' : (led.intentState == .reserve || led.intentState == .burn) = true := by
        simpa using hstate
      rw [hstate', Bool.true_and]
  | enterLink => exact enterLink_rows
  | markAcked | markDrop => exact releaseHeld_rows
  | retryOrDrop now => exact retryOrDrop_rows
  | bindOwner | ledgerTick => rfl

/-- **Every call keeps rows and charges in step.** -/
theorem Charged.step {t : Trace} (h : Charged t) (c : Call) : Charged (t.step c) := by
  obtain ⟨p, hp⟩ : ∃ p : Row → Bool,
      (c.expiry t.led).rows = fun i => (t.led.rows i).filter p := c.expiry_rows
  have hexpired : Charged ⟨c.expiry t.led, fun id =>
      if c.expires t.led id then 0 else t.charged id⟩ := Charged.expire h hp
  cases hcharge : c.charges t.led with
  | none =>
    have hrows := c.apply_rows hcharge
    constructor
    · intro i j r r' hi hj
      exact hexpired.unique i j r r' (hrows ▸ hi) (hrows ▸ hj)
    · intro i r hi
      have hrow := hexpired.row i r (hrows ▸ hi)
      simpa [Trace.step, hcharge] using hrow
    · intro id hnone
      have hnone' : findRow (c.expiry t.led) id = none := by
        rw [findRow, ← hrows]
        exact hnone
      simpa [Trace.step, hcharge] using hexpired.noRow id hnone'
    · intro handle n
      show weight _ (c.apply t.led).2.rows ≤ _
      rw [hrows]
      exact hexpired.aggregate handle n
  | some id =>
    cases c with
    | afterBurnOk now =>
      unfold Call.charges at hcharge
      dsimp only at hcharge
      split at hcharge
      · rename_i hok
        obtain ⟨hstate, hcharged, hled⟩ := afterBurnOk_ok hok
        obtain ⟨hvalid, hroom, i, row, hrow, hburns, heq⟩ := chargeBurn_ok hcharged
        have hid : t.led.intentId = id := Option.some.inj hcharge
        have hexpiry : Call.expiry t.led (.afterBurnOk now) = expireRows t.led now := by
          unfold Call.expiry
          dsimp only
          rw [hstate, hvalid, Bool.and_self, if_pos rfl]
        rw [hexpiry] at hexpired
        have hrows : (t.step (.afterBurnOk now)).led.rows =
            update (expireRows t.led now).rows i
              (some { row with burnsUsed := row.burnsUsed + 1, lastBurnMono := now }) := by
          show (AckIntent.afterBurnOk t.led now).2.rows = _
          rw [hled, heq]
        have hnew := hexpired.charge hvalid hroom hrow hburns hrows
        have hwho : Call.charges t.led (.afterBurnOk now) = some t.led.intentId := by
          rw [Call.charges, if_pos hok]
        have hstep : t.step (.afterBurnOk now) = ⟨(t.step (.afterBurnOk now)).led, fun id' =>
            (if Call.expires t.led (.afterBurnOk now) id' then 0 else t.charged id') +
              (if some t.led.intentId = some id' then 1 else 0)⟩ := by
          rw [← hwho]
          rfl
        rw [hstep]
        exact hnew
      · cases hcharge
    | _ => cases hcharge

/-- The charges of a transfer's identities of at most `n` fragments. -/
theorem Charged.total_le {t : Trace} (h : Charged t) {handle : UInt64} {n : UInt16}
    {S : Finset Identity} (hS : ∀ id ∈ S, id.transferHandle = handle ∧ id.fragCount ≤ n) :
    ∑ id ∈ S, t.charged id ≤ aggregateLimit n := by
  calc ∑ id ∈ S, t.charged id
      ≤ ∑ id ∈ S, weight (fun r : Row => if r.id = id then r.burnsUsed else 0) t.led.rows := by
        refine Finset.sum_le_sum fun id _ => ?_
        cases hfind : findRow t.led id with
        | none => rw [h.noRow id hfind]; exact Nat.zero_le _
        | some found =>
          obtain ⟨i, r⟩ := found
          obtain ⟨hi, hid⟩ := scan_eq_some hfind
          have hid' : r.id = id := by simpa using hid
          have hle := le_weight (w := fun r : Row => if r.id = id then r.burnsUsed else 0) hi
          rw [← hid', (h.row i r hi).2.1, hid']
          simpa [hid'] using hle
    _ = weight (fun r : Row => if r.id ∈ S then r.burnsUsed else 0) t.led.rows :=
        sum_weight_key S Row.id
    _ ≤ weight (Row.burnsUpTo handle n) t.led.rows := by
        refine weight_mono fun r => ?_
        split
        · rename_i hr
          rw [Row.burnsUpTo, if_pos (hS r.id hr)]
        · exact Nat.zero_le _
    _ ≤ aggregateLimit n := h.aggregate handle n

theorem Charged.charged_le {t : Trace} (h : Charged t) (id : Identity) :
    t.charged id ≤ semanticMax := by
  cases hfind : findRow t.led id with
  | none => rw [h.noRow id hfind]; exact Nat.zero_le _
  | some found =>
    obtain ⟨i, r⟩ := found
    obtain ⟨hi, hid⟩ := scan_eq_some hfind
    have hid' : r.id = id := by simpa using hid
    obtain ⟨hmax, hcharged, -⟩ := h.row i r hi
    rw [← hid', hcharged]
    exact hmax

/-! ### Ledgers without an owner -/

/-- No row expires, since no owner was ever bound. -/
structure Unowned (led : Ledger) : Prop where
  owner : led.ownerExpiryMono = 0
  row : ∀ i r, led.rows i = some r → r.ownerExpiryMono = 0

theorem Unowned.expireRows (h : Unowned led) : expireRows led now = led := by
  have hrows : (fun i => (led.rows i).filter fun r => !r.pastExpiry now) = led.rows := by
    funext i
    cases hi : led.rows i with
    | none => rfl
    | some r => simp [Row.pastExpiry, h.row i r hi]
  unfold AckIntent.expireRows
  rw [hrows]

theorem Unowned.ledgerTick (h : Unowned led) : ledgerTick led now = led := by
  have howner : led.ownerGone now = false := by simp [Ledger.ownerGone, h.owner]
  unfold AckIntent.ledgerTick
  rw [h.expireRows]
  simp [howner]

/-- The call binds an owner. -/
def Call.binds : Call → Bool
  | .bindOwner _ _ _ => true
  | _ => false

@[simp] theorem reserveRelease_owner :
    (reserveRelease led).ownerExpiryMono = led.ownerExpiryMono := by
  unfold reserveRelease
  split <;> rfl

@[simp] theorem intentClearDrop_owner :
    (intentClearDrop led).ownerExpiryMono = led.ownerExpiryMono := rfl

@[simp] theorem ledgerTick_owner :
    (ledgerTick led now).ownerExpiryMono = led.ownerExpiryMono := by
  unfold ledgerTick
  dsimp only
  split <;> rfl

theorem chargeBurn_owner :
    (chargeBurn led id now).2.ownerExpiryMono = led.ownerExpiryMono := by
  by_cases h : (chargeBurn led id now).1 = .ok
  · obtain ⟨-, -, i, row, -, -, heq⟩ := chargeBurn_ok h
    rw [heq]
    rfl
  · rw [chargeBurn_refused h]
    split <;> rfl

theorem releaseHeld_owner : (releaseHeld led).ownerExpiryMono = led.ownerExpiryMono := by
  unfold releaseHeld
  split
  · exact reserveRelease_owner
  · rfl

theorem enterReserve_owner : (enterReserve led).2.ownerExpiryMono = led.ownerExpiryMono := by
  unfold enterReserve reserveAcquire
  split_ifs <;> rfl

theorem Call.apply_owner (c : Call) (h : c.binds = false) :
    (c.apply led).2.ownerExpiryMono = led.ownerExpiryMono := by
  cases c with
  | armPending id now deadline =>
    show (AckIntent.armPending led id now deadline).2.ownerExpiryMono = _
    unfold AckIntent.armPending
    split_ifs <;> rfl
  | intentTick now =>
    show (AckIntent.intentTick led now).2.ownerExpiryMono = _
    unfold AckIntent.intentTick
    dsimp only
    split_ifs <;> simp
  | enterReserve => exact enterReserve_owner
  | afterBurnOk now =>
    show (AckIntent.afterBurnOk led now).2.ownerExpiryMono = _
    by_cases hok : (AckIntent.afterBurnOk led now).1 = .ok
    · rw [(afterBurnOk_ok hok).2.2]
      exact chargeBurn_owner
    · rcases afterBurnOk_refused hok with ⟨heq, -⟩ | ⟨-, -, heq⟩
      · rw [heq]
      · rw [heq, intentClearDrop_owner, reserveRelease_owner]
        exact chargeBurn_owner
  | enterLink =>
    show (AckIntent.enterLink led).2.ownerExpiryMono = _
    unfold AckIntent.enterLink
    split <;> rfl
  | markAcked | markDrop => exact releaseHeld_owner
  | retryOrDrop now =>
    show (AckIntent.retryOrDrop led now).2.ownerExpiryMono = _
    unfold AckIntent.retryOrDrop
    dsimp only
    split_ifs <;> simp
  | bindOwner handle fragCount expiry => cases h
  | ledgerTick now => exact ledgerTick_owner

theorem Unowned.step {t : Trace} (h : Unowned t.led) (c : Call) (hbind : c.binds = false) :
    Unowned (t.step c).led := by
  have howner : (c.apply t.led).2.ownerExpiryMono = 0 := (c.apply_owner hbind).trans h.owner
  refine ⟨howner, ?_⟩
  intro i r hi
  have hexpiry : (c.expiry t.led).rows = t.led.rows := by
    cases c with
    | intentTick | ledgerTick => exact congrArg Ledger.rows h.ledgerTick
    | afterBurnOk now =>
      unfold Call.expiry
      dsimp only
      split
      · rw [h.expireRows]
      · rfl
    | _ => rfl
  cases hcharge : c.charges t.led with
  | none =>
    refine h.row i r ?_
    rw [← hexpiry, ← c.apply_rows hcharge]
    exact hi
  | some id =>
    cases c with
    | afterBurnOk now =>
      unfold Call.charges at hcharge
      dsimp only at hcharge
      split at hcharge
      · rename_i hok
        obtain ⟨-, hcharged, hled⟩ := afterBurnOk_ok hok
        obtain ⟨-, -, j, row, hrow, -, heq⟩ := chargeBurn_ok hcharged
        rw [h.expireRows] at hrow heq
        have hrows : (AckIntent.afterBurnOk t.led now).2.rows = update t.led.rows j
            (some { row with burnsUsed := row.burnsUsed + 1, lastBurnMono := now }) := by
          rw [hled, heq]
        have hi' : (AckIntent.afterBurnOk t.led now).2.rows i = some r := hi
        rw [hrows] at hi'
        by_cases hij : i = j
        · subst hij
          rw [update_self] at hi'
          cases hi'
          rcases rowToCharge_eq_some hrow with ⟨hat, -⟩ | ⟨-, -, rfl⟩
          · exact h.row i row hat
          · exact h.owner
        · rw [update_of_ne hij] at hi'
          exact h.row i r hi'
      · cases hcharge
    | _ => cases hcharge

/-! ### The control reserve -/

/-- The call arms an intent over one that holds the control reserve. -/
def Call.rearms (led : Ledger) : Call → Bool
  | .armPending id _ _ => idValid id && led.intentState.holdsReserve
  | _ => false

/-- The reserve is held in the states that hold it, of which BURN and BURN_CU are never entered. -/
structure Balanced (led : Ledger) : Prop where
  held : led.controlReserveHeld = if led.intentState.holdsReserve then 1 else 0
  noBurn : led.intentState ≠ .burn ∧ led.intentState ≠ .burnCu

theorem Balanced.init : Balanced init := ⟨rfl, by decide⟩

/-- A ledger without a reserve, in a state that needs none. -/
theorem Balanced.ofFree (hheld : led.controlReserveHeld = 0)
    (hstate : led.intentState.holdsReserve = false) : Balanced led := by
  refine ⟨by rw [hheld, hstate]; rfl, ?_, ?_⟩
  · intro hs
    rw [hs] at hstate
    cases hstate
  · intro hs
    rw [hs] at hstate
    cases hstate

/-- Changes of other fields. -/
theorem Balanced.congr (h : Balanced led) (hheld : led'.controlReserveHeld = led.controlReserveHeld)
    (hstate : led'.intentState = led.intentState) : Balanced led' :=
  ⟨by rw [hheld, hstate]; exact h.held, by rw [hstate]; exact h.noBurn⟩

/-- A ledger with one reserve, in a state that is entered and holds it. -/
theorem Balanced.ofHeld (st : IntentState) (hstate : led.intentState = st)
    (hst : st.holdsReserve = true ∧ st ≠ .burn ∧ st ≠ .burnCu)
    (hheld : led.controlReserveHeld = 1) : Balanced led :=
  ⟨by rw [hheld, hstate, hst.1]; rfl, by rw [hstate]; exact hst.2⟩

theorem Balanced.free (h : Balanced led) (hstate : led.intentState.holdsReserve = false) :
    led.controlReserveHeld = 0 := by
  have hheld := h.held
  rw [hstate] at hheld
  simpa using hheld

theorem Balanced.one (h : Balanced led) (hstate : led.intentState.holdsReserve = true) :
    led.controlReserveHeld = 1 := by
  have hheld := h.held
  rw [hstate] at hheld
  simpa using hheld

theorem Balanced.released (h : Balanced led) (hstate : led.intentState.holdsReserve = true) :
    (reserveRelease led).controlReserveHeld = 0 := by
  simp [reserveRelease, h.one hstate]

theorem Balanced.releaseHeld (h : Balanced led) : (releaseHeld led).controlReserveHeld = 0 := by
  unfold AckIntent.releaseHeld
  split
  · rename_i hstate
    exact h.released hstate
  · rename_i hstate
    exact h.free (by simpa using hstate)

theorem ledgerTick_held : (ledgerTick led now).controlReserveHeld = led.controlReserveHeld := by
  unfold ledgerTick
  dsimp only
  split <;> rfl

theorem ledgerTick_state : (ledgerTick led now).intentState = led.intentState := by
  unfold ledgerTick
  dsimp only
  split <;> rfl

theorem Balanced.ledgerTick (h : Balanced led) : Balanced (ledgerTick led now) :=
  h.congr ledgerTick_held ledgerTick_state

theorem Balanced.intentTick (h : Balanced led) : Balanced (intentTick led now).2 := by
  have htick : Balanced (AckIntent.ledgerTick led now) := h.ledgerTick
  unfold AckIntent.intentTick
  dsimp only
  generalize AckIntent.ledgerTick led now = led₁ at htick ⊢
  have hidle : ∀ st : IntentState, st.holdsReserve = false → led₁.intentState = st →
      led₁.controlReserveHeld = 0 := fun st hst heq => htick.free (heq ▸ hst)
  split_ifs with hdone howner hheld hdue hretry hretry
  · exact htick
  · simp only [Bool.and_eq_true, decide_eq_true_eq] at hheld
    exact .ofFree (htick.released hheld.2) rfl
  · refine .ofFree ?_ rfl
    show led₁.controlReserveHeld = 0
    simp only [Bool.and_eq_true, decide_eq_true_eq] at hheld
    by_contra hne
    refine hne (htick.free ?_)
    by_contra hst
    exact hheld ⟨by omega, by simpa using hst⟩
  · simp at hretry
  · simp only [Bool.and_eq_true, beq_iff_eq] at hdue
    exact .ofFree (hidle .pending rfl hdue.1) rfl
  · simp only [Bool.and_eq_true, beq_iff_eq] at hretry
    exact .ofFree (hidle .retry rfl hretry.1) rfl
  · exact htick

theorem Balanced.enterReserve (h : Balanced led) : Balanced (enterReserve led).2 := by
  unfold AckIntent.enterReserve
  split
  · exact h
  · rename_i hdue
    have hfree : led.controlReserveHeld = 0 := h.free (by
      have hstate : led.intentState = .due := by simpa using hdue
      rw [hstate]
      rfl)
    have hacquire : reserveAcquire led = (.ok, { led with controlReserveHeld := 1 }) := by
      simp [reserveAcquire, hfree]
    rw [hacquire]
    exact .ofHeld .reserve rfl (by decide) rfl

theorem Balanced.afterBurnOk (h : Balanced led) : Balanced (afterBurnOk led now).2 := by
  have hheld : ∀ st, st.holdsReserve = true → led.intentState = st →
      led.controlReserveHeld = 1 := fun st hst heq => h.one (heq ▸ hst)
  by_cases hok : (AckIntent.afterBurnOk led now).1 = .ok
  · obtain ⟨hstate, -, hled⟩ := afterBurnOk_ok hok
    have hone : led.controlReserveHeld = 1 := by
      rcases Bool.or_eq_true_iff.1 hstate with hs | hs
      · exact hheld .reserve rfl (by simpa using hs)
      · exact hheld .burn rfl (by simpa using hs)
    rw [hled]
    exact .ofHeld .sealing rfl (by decide) (chargeBurn_reserve.trans hone)
  · rcases afterBurnOk_refused hok with ⟨heq, -⟩ | ⟨hstate, -, heq⟩
    · rw [heq]
      exact h
    · rw [heq]
      refine .ofFree ?_ rfl
      have hone : led.controlReserveHeld = 1 := by
        rcases hstate with hs | hs
        · exact hheld .reserve rfl hs
        · exact hheld .burn rfl hs
      show (reserveRelease (chargeBurn led led.intentId now).2).controlReserveHeld = 0
      simp [reserveRelease, chargeBurn_reserve, hone]

theorem Balanced.retryOrDrop (h : Balanced led) : Balanced (retryOrDrop led now).2 := by
  have hfree : (if led.intentState == .reserve || led.intentState == .sealing ||
      led.intentState == .link then reserveRelease led else led).controlReserveHeld = 0 := by
    split
    · rename_i hs
      refine h.released ?_
      simp only [Bool.or_eq_true, beq_iff_eq] at hs
      rcases hs with (hs | hs) | hs <;> rw [hs] <;> rfl
    · rename_i hs
      refine h.free ?_
      obtain ⟨hburn, hburnCu⟩ := h.noBurn
      cases hstate : led.intentState <;> simp_all [IntentState.holdsReserve]
  unfold AckIntent.retryOrDrop
  dsimp only
  generalize (if led.intentState == .reserve || led.intentState == .sealing ||
      led.intentState == .link then reserveRelease led else led) = led₁ at hfree ⊢
  split
  · exact .ofFree hfree rfl
  · split
    · exact .ofFree hfree rfl
    · exact .ofFree hfree rfl

/-- **Every call that does not arm over a held reserve keeps the balance.** -/
theorem Balanced.step {t : Trace} (h : Balanced t.led) (c : Call)
    (hcalm : c.rearms t.led = false) : Balanced (t.step c).led := by
  cases c with
  | armPending id now deadline =>
    show Balanced (AckIntent.armPending t.led id now deadline).2
    unfold AckIntent.armPending
    split
    · exact h
    · rename_i hvalid
      have hfree : t.led.controlReserveHeld = 0 := h.free (by
        have hvalid' : idValid id = true := by simpa using hvalid
        simpa [Call.rearms, hvalid'] using hcalm)
      split
      · exact .ofFree hfree rfl
      · exact .ofFree hfree rfl
  | intentTick now => exact h.intentTick
  | enterReserve => exact h.enterReserve
  | afterBurnOk now => exact h.afterBurnOk
  | enterLink =>
    show Balanced (AckIntent.enterLink t.led).2
    unfold AckIntent.enterLink
    split
    · exact h
    · rename_i hs
      have hstate : t.led.intentState = .sealing := by simpa using hs
      exact .ofHeld .link rfl (by decide) (h.one (by rw [hstate]; rfl))
  | markAcked | markDrop => exact .ofFree h.releaseHeld rfl
  | retryOrDrop now => exact h.retryOrDrop
  | bindOwner handle fragCount expiry => exact h.congr rfl rfl
  | ledgerTick now => exact h.ledgerTick

/-! ### Whole runs -/

/-- No call of the sequence arms an intent over one that holds the control reserve. -/
def Calm (calls : List Call) : Prop :=
  ∀ pre c post, calls = pre ++ c :: post → c.rearms (runOf pre).led = false

theorem calm_nil : Calm [] := by
  rintro pre c post heq
  simp at heq

theorem calm_snoc (calls : List Call) {c : Call} (h : Calm calls)
    (hc : c.rearms (runOf calls).led = false) : Calm (calls ++ [c]) := by
  intro pre d post heq
  rcases List.eq_nil_or_concat post with rfl | ⟨post', e, rfl⟩
  · obtain ⟨rfl, hd⟩ := List.append_inj' heq rfl
    cases hd
    exact hc
  · refine h pre d post' ?_
    rw [List.concat_eq_append, ← List.cons_append, ← List.append_assoc] at heq
    exact (List.append_inj' heq rfl).1

theorem charged_runOf (calls : List Call) : Charged (runOf calls) :=
  runOf_keeps .init (fun _ c h => h.step c) calls

theorem balanced_runOf {calls : List Call} (h : Calm calls) : Balanced (runOf calls).led := by
  induction calls using List.reverseRecOn with
  | nil => exact .init
  | append_singleton calls c ih =>
    rw [runOf_snoc]
    refine (ih ?_).step c (h calls c [] rfl)
    intro pre d post heq
    exact h pre d (post ++ [c]) (by rw [heq]; simp)

theorem unowned_runOf {calls : List Call} (h : ∀ c ∈ calls, c.binds = false) :
    Unowned (runOf calls).led := by
  induction calls using List.reverseRecOn with
  | nil => exact ⟨rfl, by rintro i r ⟨⟩⟩
  | append_singleton calls c ih =>
    rw [runOf_snoc]
    refine (ih ?_).step c (h c (by simp))
    intro d hd
    exact h d (List.mem_append_left _ hd)

/-- A refused charge: each row stays as it was, unless it is past its expiry and is cleared. -/
theorem expireRows_rows (i : Fin ledgerRows) :
    (expireRows led now).rows i = led.rows i ∨
    ∃ r, led.rows i = some r ∧ r.pastExpiry now = true ∧ (expireRows led now).rows i = none := by
  show (led.rows i).filter (fun r => !r.pastExpiry now) = led.rows i ∨
    ∃ r, led.rows i = some r ∧ r.pastExpiry now = true ∧
      (led.rows i).filter (fun r => !r.pastExpiry now) = none
  cases led.rows i with
  | none => exact .inl rfl
  | some r =>
    cases hpast : r.pastExpiry now with
    | true => exact .inr ⟨r, rfl, hpast, by simp [hpast]⟩
    | false => exact .inl (by simp [hpast])

theorem afterBurnOk_refused_rows (h : (afterBurnOk led now).1 ≠ .ok) :
    (afterBurnOk led now).2.rows = led.rows ∨
    (afterBurnOk led now).2.rows = (expireRows led now).rows := by
  rcases afterBurnOk_refused h with ⟨heq, -⟩ | ⟨-, hrefused, heq⟩
  · exact .inl (by rw [heq])
  · rw [heq, intentClearDrop_rows, reserveRelease_rows, chargeBurn_refused hrefused]
    split
    · exact .inr rfl
    · exact .inl rfl

/-- **Burns stay within both budgets in every run, and the control reserve is held exactly in the
states that hold it in every run that never arms an intent over one that holds it.** -/
theorem acks_within_budget (calls : List Call) :
    (∀ id, (runOf calls).charged id ≤ semanticMax) ∧
    (∀ handle n (S : Finset Identity),
      (∀ id ∈ S, id.transferHandle = handle ∧ id.fragCount ≤ n) →
      ∑ id ∈ S, (runOf calls).charged id ≤ aggregateLimit n) ∧
    (∀ now, (afterBurnOk (runOf calls).led now).1 ≠ .ok →
      (∀ i, (afterBurnOk (runOf calls).led now).2.rows i = (runOf calls).led.rows i ∨
        ∃ r, (runOf calls).led.rows i = some r ∧ r.pastExpiry now = true ∧
          (afterBurnOk (runOf calls).led now).2.rows i = none) ∧
      ((∀ c ∈ calls, c.binds = false) →
        (afterBurnOk (runOf calls).led now).2.rows = (runOf calls).led.rows)) ∧
    (Calm calls → (runOf calls).led.controlReserveHeld =
      if (runOf calls).led.intentState.holdsReserve then 1 else 0) := by
  have hcharged := charged_runOf calls
  refine ⟨hcharged.charged_le, fun handle n S hS => hcharged.total_le hS, ?_,
    fun hcalm => (balanced_runOf hcalm).held⟩
  intro now hrefused
  refine ⟨fun i => ?_, fun hbinds => ?_⟩
  · rcases afterBurnOk_refused_rows hrefused with hrows | hrows
    · exact .inl (congrFun hrows i)
    · rw [hrows]
      exact expireRows_rows i
  · rcases afterBurnOk_refused_rows hrefused with hrows | hrows
    · exact hrows
    · rw [hrows, (unowned_runOf hbinds).expireRows]

/-- An intent is armed, comes due, takes the reserve and is charged. -/
def charging : List Call :=
  [.armPending ⟨7, 4, 1, 0, 0⟩ 0 0, .intentTick 2000, .enterReserve, .afterBurnOk 2000]

theorem calm_charging : Calm charging :=
  calm_snoc [.armPending ⟨7, 4, 1, 0, 0⟩ 0 0, .intentTick 2000, .enterReserve]
    (calm_snoc [.armPending ⟨7, 4, 1, 0, 0⟩ 0 0, .intentTick 2000]
      (calm_snoc [.armPending ⟨7, 4, 1, 0, 0⟩ 0 0]
        (calm_snoc [] calm_nil rfl) rfl) rfl) rfl

/-- One burn of one identity, with the reserve held. -/
theorem acks_within_budget_charging :
    (runOf charging).charged ⟨7, 4, 1, 0, 0⟩ = 1 ∧
    (runOf charging).charged ⟨7, 4, 1, 0, 0⟩ ≤ semanticMax ∧
    (runOf charging).led.intentState = .sealing ∧
    (runOf charging).led.controlReserveHeld = 1 :=
  ⟨by decide, (acks_within_budget charging).1 _, by decide,
    (acks_within_budget charging).2.2.2 calm_charging⟩

/-- An intent is armed, comes due and takes the reserve; then another is armed. -/
def rearmed : List Call :=
  [.armPending ⟨7, 4, 1, 0, 0⟩ 0 0, .intentTick 2000, .enterReserve,
    .armPending ⟨7, 4, 3, 0, 0⟩ 2000 0]

/-- **The reserve of the first intent is held while the second is only pending.** -/
theorem rearm_keeps_reserve : (runOf rearmed).led.intentState = .pending ∧
    (runOf rearmed).led.intentState.holdsReserve = false ∧
    (runOf rearmed).led.controlReserveHeld = 1 := by
  decide

end Ninlil.AckIntent
