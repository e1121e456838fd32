import Ninlil.FragSession.Session

/-!
# The lanes of a session

What a call may do to a lane: it keeps its name, and an end-to-end counter that was taken stays
taken, also across a restart.

* `Lane.core`, `rxReplay_eq_false`, `rxMark_window`: the receiving half of a lane is the replay
  window of the fragment engine;
* `Lane.Covered`: everything taken is below the accept limit;
* `Lane.Keeps`: the relation between a lane and a later one.
-/

namespace Ninlil.FragSession

open R7Frag Replay

variable {L L' : Lane} {c : UInt64} {lanes lanes' : List Lane} {kind : UInt8} {ctx : UInt32}
  {i : ℕ}

/-! ### Windows -/

/-- The receiving half of a lane, as a lane of the fragment engine. -/
def Lane.core (L : Lane) : R7Frag.Lane :=
  { R7Frag.Lane.zero with
    rxAcceptReservedThrough := L.rxAcceptThrough
    rxBootFloor := L.rxBootFloor
    rxRamHighest := L.rxHighest
    rxBitmap := L.rxBitmap }

/-- The window of a lane. -/
def Lane.window (L : Lane) : Window 64 := L.core.window

theorem rxReplay_eq_false : L.rxReplay c = false ↔ L.window.Fresh c.toNat := by
  have hcore : L.rxReplay c = L.core.rxReplay c := by
    simp only [Lane.rxReplay, R7Frag.Lane.rxReplay, Lane.core]
    rfl
  rw [hcore]
  exact R7Frag.Lane.rxReplay_eq_false

theorem rxReplay_eq_true : L.rxReplay c = true ↔ ¬ L.window.Fresh c.toNat := by
  rw [← rxReplay_eq_false, Bool.not_eq_false]

theorem rxMark_window (h : L.window.Fresh c.toNat) :
    (L.rxMark c).window = L.window.mark c.toNat := by
  have hcore : (L.rxMark c).window = (L.core.rxMark c).window := by
    unfold Lane.rxMark R7Frag.Lane.rxMark
    by_cases hc : c > L.rxHighest
    · have hc' : c > L.core.rxRamHighest := hc
      rw [if_pos hc, if_pos hc']
      simp only [Lane.window, R7Frag.Lane.window, Lane.core]
      rfl
    · have hc' : ¬ c > L.core.rxRamHighest := hc
      rw [if_neg hc, if_neg hc']
      simp only [Lane.window, R7Frag.Lane.window, Lane.core]
  rw [hcore]
  exact R7Frag.Lane.rxMark_window h

theorem rxMark_highest (L : Lane) (c : UInt64) :
    (L.rxMark c).rxHighest = if c > L.rxHighest then c else L.rxHighest := by
  unfold Lane.rxMark
  split_ifs
  all_goals rfl

theorem rxMark_frame (L : Lane) (c : UInt64) : (L.rxMark c).kind = L.kind ∧
    (L.rxMark c).contextId = L.contextId ∧ (L.rxMark c).keyGeneration = L.keyGeneration ∧
      (L.rxMark c).rxAcceptThrough = L.rxAcceptThrough ∧
      (L.rxMark c).rxBootFloor = L.rxBootFloor := by
  unfold Lane.rxMark
  split_ifs
  all_goals exact ⟨rfl, rfl, rfl, rfl, rfl⟩

/-- The accept limit for a counter covers it. -/
theorem le_throughFor (h : c ≠ u64Max) : c ≤ throughFor c := by
  have hmax := toNat_lt_of_ne_max h
  have htop : (u64Max - 1 - 63).toNat = 2 ^ 64 - 65 := by decide
  rw [UInt64.le_iff_toNat_le]
  unfold throughFor
  split_ifs with hcap
  · rw [show (u64Max - 1).toNat = 2 ^ 64 - 2 by decide]
    omega
  · have hroom : c.toNat ≤ 2 ^ 64 - 65 := by
      rw [← htop, ← UInt64.le_iff_toNat_le]
      exact UInt64.not_lt.1 hcap
    rw [toNat_add_of_lt (by rw [show (63 : UInt64).toNat = 63 from rfl]; omega)]
    omega

/-! ### What a lane keeps -/

/-- Nothing above the accept limit was taken. -/
structure Lane.Covered (L : Lane) : Prop where
  floor : L.rxBootFloor ≤ L.rxAcceptThrough
  highest : L.rxHighest ≤ L.rxAcceptThrough

/-- A later state of a lane. -/
structure Lane.Keeps (L L' : Lane) : Prop where
  kind : L'.kind = L.kind
  contextId : L'.contextId = L.contextId
  keyGeneration : L'.keyGeneration = L.keyGeneration
  replay : L.kind = laneE2e → ∀ c, L.rxReplay c = true → L'.rxReplay c = true
  covered : L.kind = laneE2e → L.Covered → L'.Covered

theorem Lane.Keeps.refl (L : Lane) : L.Keeps L :=
  ⟨rfl, rfl, rfl, fun _ _ h => h, fun _ h => h⟩

theorem Lane.Keeps.trans {L'' : Lane} (h : L.Keeps L') (h' : L'.Keeps L'') : L.Keeps L'' :=
  ⟨h'.kind.trans h.kind, h'.contextId.trans h.contextId, h'.keyGeneration.trans h.keyGeneration,
    fun hk c hc => h'.replay (h.kind.trans hk) c (h.replay hk c hc),
    fun hk hc => h'.covered (h.kind.trans hk) (h.covered hk hc)⟩

/-- A change that leaves the receiving half alone. -/
theorem keeps_of_core (hkind : L'.kind = L.kind) (hctx : L'.contextId = L.contextId)
    (hgen : L'.keyGeneration = L.keyGeneration) (hcore : L'.core = L.core) : L.Keeps L' := by
  have hfloor : L'.rxBootFloor = L.rxBootFloor := congrArg R7Frag.Lane.rxBootFloor hcore
  have hhigh : L'.rxHighest = L.rxHighest := congrArg R7Frag.Lane.rxRamHighest hcore
  have hbits : L'.rxBitmap = L.rxBitmap := congrArg R7Frag.Lane.rxBitmap hcore
  have haccept : L'.rxAcceptThrough = L.rxAcceptThrough :=
    congrArg R7Frag.Lane.rxAcceptReservedThrough hcore
  refine ⟨hkind, hctx, hgen, fun _ c hc => ?_, fun _ hc => ⟨?_, ?_⟩⟩
  · rwa [Lane.rxReplay, hfloor, hhigh, hbits]
  · rw [hfloor, haccept]
    exact hc.floor
  · rw [hhigh, haccept]
    exact hc.highest

theorem keeps_txGrow (L : Lane) (d : Storage) : L.Keeps (L.txGrow d).2 := by
  unfold Lane.txGrow
  split_ifs
  · exact .refl L
  · split
    · exact .refl L
    · split
      · exact keeps_of_core rfl rfl rfl rfl
      · exact .refl L
      · exact keeps_of_core rfl rfl rfl rfl

theorem keeps_laneTxAlloc (L : Lane) (d : Storage) : L.Keeps (laneTxAlloc L d).2.1 := by
  unfold laneTxAlloc
  split_ifs
  · exact .refl L
  · exact .refl L
  · have hgrow := keeps_txGrow L d
    rcases hres : L.txGrow d with ⟨st, L'⟩
    rw [hres] at hgrow
    cases st
    case ok =>
      dsimp only
      split_ifs
      · exact hgrow
      · split
        · exact hgrow.trans (keeps_of_core rfl rfl rfl rfl)
        · exact hgrow.trans (keeps_of_core rfl rfl rfl rfl)
    all_goals exact hgrow

theorem laneRxPrecheck_ok (h : laneRxPrecheck L c = .ok) : c ≠ u64Max ∧ L.rxReplay c = false := by
  unfold laneRxPrecheck at h
  split_ifs at h with hfenced hclass hreplay
  exact ⟨fun hc => hclass (.inr hc), by simpa using hreplay⟩

/-- The lane that an admitted counter leaves. -/
theorem keeps_rxMark {through : UInt64} (h : L.rxReplay c = false)
    (hthrough : L.rxAcceptThrough ≤ through) (hc : c ≤ through) :
    L.Keeps ({ L with rxAcceptThrough := through }.rxMark c) ∧
      ({ L with rxAcceptThrough := through }.rxMark c).rxReplay c = true := by
  have hfresh : ({ L with rxAcceptThrough := through } : Lane).window.Fresh c.toNat :=
    rxReplay_eq_false.1 h
  have hmark := rxMark_window hfresh
  obtain ⟨hkind, hctx, hgen, haccept, hfloor⟩ :=
    rxMark_frame ({ L with rxAcceptThrough := through } : Lane) c
  refine ⟨⟨hkind, hctx, hgen, fun _ a ha => ?_, fun _ hcov => ⟨?_, ?_⟩⟩, ?_⟩
  · rw [rxReplay_eq_true, hmark]
    exact Window.not_fresh_mark (rxReplay_eq_true.1 ha)
  · rw [hfloor, haccept]
    exact UInt64.le_trans hcov.floor hthrough
  · rw [rxMark_highest, haccept]
    split_ifs
    · exact hc
    · exact UInt64.le_trans hcov.highest hthrough
  · rw [rxReplay_eq_true, hmark]
    exact Window.not_fresh_mark_self

/-- **Admission** keeps the lane, and an admitted counter is taken. -/
theorem laneRxAdmit_cases (L : Lane) (w : Write) (c : UInt64) :
    L.Keeps (laneRxAdmit L w c).2 ∧
      ((laneRxAdmit L w c).1 = .ok → (laneRxAdmit L w c).2.rxReplay c = true) := by
  unfold laneRxAdmit
  cases hcheck : laneRxPrecheck L c
  case ok =>
    obtain ⟨hmax, hfresh⟩ := laneRxPrecheck_ok hcheck
    dsimp only
    split_ifs with habove
    · cases w with
      | stored =>
        obtain ⟨hkeep, hself⟩ := keeps_rxMark hfresh
          (UInt64.le_trans (UInt64.le_of_lt habove) (le_throughFor hmax)) (le_throughFor hmax)
        exact ⟨hkeep, fun _ => hself⟩
      | refused => exact ⟨.refl L, fun h => nomatch h⟩
      | lost => exact ⟨keeps_of_core rfl rfl rfl rfl, fun h => nomatch h⟩
    · obtain ⟨hkeep, hself⟩ := keeps_rxMark hfresh (UInt64.le_refl _) (UInt64.not_lt.1 habove)
      exact ⟨hkeep, fun _ => hself⟩
  all_goals exact ⟨.refl L, fun h => nomatch h⟩

/-- After a restart every counter that was taken counts as seen. -/
theorem Lane.replay_restarted (hcov : L.Covered) (h : L.rxReplay c = true) :
    L.restarted.rxReplay c = true := by
  have hle : c ≤ L.rxAcceptThrough := by
    by_contra habove
    have hlt : L.rxAcceptThrough < c := UInt64.not_le.1 habove
    have hfloor : ¬ c ≤ L.rxBootFloor := fun hc =>
      UInt64.not_lt.2 (UInt64.le_trans hc hcov.floor) hlt
    have hhigh : ¬ c ≤ L.rxHighest := fun hc =>
      UInt64.not_lt.2 (UInt64.le_trans hc hcov.highest) hlt
    unfold Lane.rxReplay at h
    rw [if_neg hfloor, if_neg hhigh] at h
    cases h
  unfold Lane.rxReplay Lane.restarted
  dsimp only
  rw [if_pos hle]

theorem covered_restarted (L : Lane) : L.restarted.Covered :=
  ⟨UInt64.le_refl _, UInt64.le_refl _⟩

theorem covered_installed (kind : UInt8) (ctx : UInt32) (keyGeneration : UInt64) :
    (Lane.installed kind ctx keyGeneration).Covered := ⟨UInt64.le_refl _, UInt64.le_refl _⟩

/-! ### Lookups -/

theorem laneFind_eq_some (h : laneFind lanes kind ctx = some (i, L)) :
    lanes[i]? = some L ∧ L.kind = kind ∧ L.contextId = ctx := by
  unfold laneFind at h
  rw [Option.bind_eq_some_iff] at h
  obtain ⟨j, hj, hget⟩ := h
  rw [Option.map_eq_some_iff] at hget
  obtain ⟨a, ha, heq⟩ := hget
  cases heq
  obtain ⟨hlt, hp, -⟩ := List.findIdx?_eq_some_iff_getElem.1 hj
  rw [List.getElem?_eq_getElem hlt] at ha
  cases ha
  simp only [Lane.is, Bool.and_eq_true, beq_iff_eq] at hp
  exact ⟨List.getElem?_eq_getElem hlt, hp⟩

/-- The same place is found in lanes with the same names. -/
theorem laneFind_of_forall₂ {R : Lane → Lane → Prop} (hR : ∀ L L', R L L' → L'.kind = L.kind ∧
    L'.contextId = L.contextId) (h : List.Forall₂ R lanes lanes')
    (hfind : laneFind lanes kind ctx = some (i, L)) :
    ∃ L', laneFind lanes' kind ctx = some (i, L') ∧ R L L' := by
  induction h generalizing i with
  | nil => cases hfind
  | @cons a b as bs hab hrest ih =>
    obtain ⟨hkind, hctx⟩ := hR a b hab
    have his : b.is kind ctx = a.is kind ctx := by rw [Lane.is, Lane.is, hkind, hctx]
    unfold laneFind at hfind ⊢
    rw [List.findIdx?_cons] at hfind ⊢
    rw [his]
    by_cases hp : a.is kind ctx = true
    · rw [if_pos hp] at hfind ⊢
      cases hfind
      exact ⟨b, rfl, hab⟩
    · rw [if_neg hp] at hfind ⊢
      rw [Option.bind_eq_some_iff] at hfind
      obtain ⟨j, hj, hget⟩ := hfind
      obtain ⟨k, hk, rfl⟩ := Option.map_eq_some_iff.1 hj
      simp only [List.getElem?_cons_succ] at hget
      obtain ⟨x, hx, heq⟩ := Option.map_eq_some_iff.1 hget
      cases heq
      have hfind' : laneFind as kind ctx = some (k, L) := by
        unfold laneFind
        rw [hk]
        simp [hx]
      obtain ⟨L', hfind', hR'⟩ := ih hfind'
      obtain ⟨hget', -⟩ := laneFind_eq_some hfind'
      refine ⟨L', ?_, hR'⟩
      unfold laneFind at hfind'
      rw [Option.bind_eq_some_iff] at hfind'
      obtain ⟨m, hm, hmget⟩ := hfind'
      obtain ⟨x, hx, heq⟩ := Option.map_eq_some_iff.1 hmget
      cases heq
      rw [hm]
      simp [hx]

/-- A lane that is added does not hide one that was there. -/
theorem laneFind_append (more : List Lane) (hfind : laneFind lanes kind ctx = some (i, L)) :
    laneFind (lanes ++ more) kind ctx = some (i, L) := by
  unfold laneFind at hfind ⊢
  rw [Option.bind_eq_some_iff] at hfind
  obtain ⟨j, hj, hget⟩ := hfind
  obtain ⟨hlt, -, -⟩ := List.findIdx?_eq_some_iff_getElem.1 hj
  rw [List.findIdx?_append, hj, Option.some_or, Option.bind_some,
    List.getElem?_append_left hlt]
  exact hget

/-- Writing one lane keeps the others. -/
theorem forall₂_set (hi : lanes[i]? = some L) (h : L.Keeps L') :
    List.Forall₂ Lane.Keeps lanes (lanes.set i L') := by
  induction lanes generalizing i with
  | nil => cases hi
  | cons a as ih =>
    cases i with
    | zero =>
      cases hi
      exact .cons h (List.forall₂_same.2 fun x _ => .refl x)
    | succ i => exact .cons (.refl a) (ih hi)

end Ninlil.FragSession
