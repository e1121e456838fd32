import Ninlil.Lib.Owners
import Ninlil.Lib.Words
import Ninlil.RouteRelay.Pages

/-!
# The dual-page store: its writers

* `World`, `Step`, `Reachable`: a namespace, what its writers have open, and the images committed;
* `Tracks`, `Sound`: how the two slots of a key stand to its images, and who owns which page;
* `Reachable.sound`: every reachable world is sound;
* `dual_store`: what readers and writers may rely on.
-/

namespace Ninlil.RouteRelay

open Owners
open Function (update update_of_ne update_self update_eq_self)

/-- What the writer of a key has: nothing, a page it was given, with the generation announced and
what it filled in, or a page it gave up on. -/
inductive Writing (n : ℕ)
  | idle
  | opened (p : Fin (n + 1)) (generation : UInt64) (page : Page)
  | abandoned

/-- A namespace, what its writers have, and the images committed to each key, the last one first. -/
structure World (n : ℕ) where
  ns : Ns n
  writing : ℕ → Writing n
  history : ℕ → List Image

variable {n : ℕ}

def World.init : World n := ⟨.init, fun _ => .idle, fun _ => []⟩

/-- A step of a writer. Only a write that is open may be filled, committed or given up. -/
inductive Step : World n → World n → Prop
  | begin {w : World n} {keyId : ℕ} {p : Fin (n + 1)} {gen : UInt64} {s : Ns n}
      (h : w.ns.beginWrite keyId = (some (p, gen), s)) :
      Step w ⟨s, update w.writing keyId (.opened p gen .zero), w.history⟩
  | refused {w : World n} {keyId : ℕ} {s : Ns n} (h : w.ns.beginWrite keyId = (none, s)) :
      Step w ⟨s, update w.writing keyId .idle, w.history⟩
  | fill {w : World n} {keyId : ℕ} {p : Fin (n + 1)} {gen : UInt64} {page : Page}
      (h : w.writing keyId = .opened p gen page) (page' : Page) :
      Step w ⟨w.ns.fill p page', update w.writing keyId (.opened p gen page'), w.history⟩
  | commit {w : World n} {keyId : ℕ} {p : Fin (n + 1)} {gen : UInt64} {page : Page}
      (h : w.writing keyId = .opened p gen page) {length : UInt32} {s : Ns n}
      (hs : w.ns.commit keyId length = (true, s)) :
      Step w ⟨s, update w.writing keyId .idle,
        update w.history keyId (⟨page, length, gen⟩ :: w.history keyId)⟩
  | uncommitted {w : World n} {keyId : ℕ} {length : UInt32} {s : Ns n}
      (hs : w.ns.commit keyId length = (false, s)) : Step w { w with ns := s }
  | abandon {w : World n} {keyId : ℕ} {p : Fin (n + 1)} {gen : UInt64} {page : Page}
      (h : w.writing keyId = .opened p gen page) :
      Step w { w with writing := update w.writing keyId .abandoned }

/-- The worlds that writers reach from an empty namespace. -/
inductive Reachable : World n → Prop
  | init : Reachable .init
  | step {w w' : World n} (hw : Reachable w) (h : Step w w') : Reachable w'

/-! ### Slots and images -/

/-- The slot holds the image. -/
structure Slot.Holds (x : Slot n) (arena : Fin (n + 1) → Page) (im : Image) : Prop where
  present : x.present = true
  generation : x.generation = im.generation
  length : x.length = im.length
  page : ∃ p, x.pageIdx = some p ∧ arena p = im.page

/-- The slot has nothing. -/
def Slot.Vacant (x : Slot n) : Prop := x.present = false ∧ x.pageIdx = none

/-- How the slot that is not active stands to the writer and to the images committed. -/
def SpareIs (arena : Fin (n + 1) → Page) (b : DualMeta n) (hist : List Image) (x : Slot n) :
    Writing n → Prop
  | .idle => x.Vacant ∨ ∃ y, hist[1]? = some y ∧ x.Holds arena y
  | .opened p gen page => x = ⟨false, gen, 0, some p⟩ ∧ arena p = page ∧ gen = b.nextGeneration
  | .abandoned => x.present = false ∧ x.pageIdx ≠ none

/-- The generations of the images committed to a key: one after another, from the first. -/
structure Chained (hist : List Image) : Prop where
  first : ∀ x, hist.getLast? = some x → x.generation = 1
  next : ∀ i x y, hist[i]? = some x → hist[i + 1]? = some y →
    x.generation = succGeneration y.generation

theorem chained_nil : Chained [] where
  first _ hx := by cases hx
  next _ _ _ hx := by cases hx

/-- How a key stands to its writer and to the images committed. -/
structure Tracks (arena : Fin (n + 1) → Page) (b : DualMeta n) (wr : Writing n)
    (hist : List Image) : Prop where
  active : (b.active = none ∧ hist = [] ∧ (b.slots true).Vacant) ∨
    ∃ a x, b.active = some a ∧ hist.head? = some x ∧ (b.slots a).Holds arena x
  spare : SpareIs arena b hist (b.slots b.inactive) wr

/-- The page of each slot of each key. -/
def Ns.owner (s : Ns n) (x : Fin n × Bool) : Option (Fin (n + 1)) :=
  ((s.keys x.1).slots x.2).pageIdx

/-- The keys stand right to their writers and images, and no two slots share a page. -/
structure Sound (w : World n) : Prop where
  unfenced : w.ns.fenced = false
  paged : Paged w.ns.owner w.ns.arenaUsed
  tracks : ∀ k : Fin n, Tracks w.ns.arena (w.ns.keys k) (w.writing k) (w.history k)
  outside : ∀ keyId, n ≤ keyId → w.writing keyId = .idle ∧ w.history keyId = []

section Slots

variable {arena arena' : Fin (n + 1) → Page} {b : DualMeta n} {x : Slot n} {im : Image}
  {wr : Writing n} {hist : List Image}

theorem Slot.vacant_free : (Slot.free : Slot n).Vacant := ⟨rfl, rfl⟩

theorem Slot.Holds.congr (h : x.Holds arena im)
    (hpage : ∀ p, x.pageIdx = some p → arena' p = arena p) : x.Holds arena' im := by
  obtain ⟨p, hp, him⟩ := h.page
  exact ⟨h.present, h.generation, h.length, p, hp, (hpage p hp).trans him⟩

/-- Other pages do not matter. -/
theorem Tracks.congr (h : Tracks arena b wr hist)
    (hpage : ∀ i p, (b.slots i).pageIdx = some p → arena' p = arena p) :
    Tracks arena' b wr hist := by
  refine ⟨?_, ?_⟩
  · obtain hnone | ⟨a, x, ha, hx, hholds⟩ := h.active
    · exact .inl hnone
    · exact .inr ⟨a, x, ha, hx, hholds.congr (hpage a)⟩
  · have hspare := h.spare
    cases wr with
    | idle =>
      obtain hv | ⟨y, hy, hholds⟩ := hspare
      · exact .inl hv
      · exact .inr ⟨y, hy, hholds.congr (hpage _)⟩
    | opened p gen page =>
      obtain ⟨hx, hp, hgen⟩ := hspare
      refine ⟨hx, (hpage b.inactive p ?_).trans hp, hgen⟩
      rw [hx]
    | abandoned => exact hspare

theorem DualMeta.inactive_none (h : b.active = none) : b.inactive = false := by
  rw [DualMeta.inactive, h, Option.elim_none]

theorem DualMeta.inactive_some {a : Bool} (h : b.active = some a) : b.inactive = !a := by
  rw [DualMeta.inactive, h, Option.elim_some]

theorem DualMeta.inactive_ne {a : Bool} (h : b.active = some a) : b.inactive ≠ a := by
  rw [DualMeta.inactive_some h]
  exact Bool.not_ne_self a

/-- Where one slot has an image, both have one if the other has. -/
theorem DualMeta.both_present {a p : Bool} (hnew : (b.slots a).present = true)
    (hold : (b.slots !a).present = p) :
    ((b.slots false).present && (b.slots true).present) = p := by
  cases a
  · rw [hnew, Bool.true_and]
    exact hold
  · rw [hnew, Bool.and_true]
    exact hold

@[simp] theorem DualMeta.put_self (i : Bool) : (b.put i x).slots i = x := update_self ..

@[simp] theorem DualMeta.put_active (i : Bool) : (b.put i x).active = b.active := rfl

@[simp] theorem DualMeta.put_inactive (i : Bool) : (b.put i x).inactive = b.inactive := rfl

theorem DualMeta.put_of_ne {i j : Bool} (h : j ≠ i) : (b.put i x).slots j = b.slots j :=
  update_of_ne h ..

/-- Another slot in the place of the one that is not active. -/
theorem Tracks.put {wr' : Writing n} (h : Tracks arena b wr hist)
    (hx : SpareIs arena (b.put b.inactive x) hist x wr') :
    Tracks arena (b.put b.inactive x) wr' hist := by
  refine ⟨?_, ?_⟩
  · obtain ⟨hnone, hnil, hv⟩ | ⟨a, y, ha, hy, hholds⟩ := h.active
    · refine .inl ⟨hnone, hnil, ?_⟩
      have hne : true ≠ b.inactive := by
        rw [DualMeta.inactive_none hnone]
        decide
      rwa [DualMeta.put_of_ne hne]
    · refine .inr ⟨a, y, ha, hy, ?_⟩
      rwa [DualMeta.put_of_ne (DualMeta.inactive_ne ha).symm]
  · rwa [DualMeta.put_inactive, DualMeta.put_self]

end Slots

/-! ### Namespaces -/

section Namespaces

variable {w : World n} {s : Ns n} {k : Fin n} {p : Fin (n + 1)}

variable {b : DualMeta n}

theorem owner_update {i : Bool} {x : Slot n}
    (hs : s.keys = update w.ns.keys k b)
    (hb : b.slots = update (w.ns.keys k).slots i x) :
    s.owner = update w.ns.owner (k, i) x.pageIdx := by
  funext ⟨k', j⟩
  unfold Ns.owner
  rw [hs]
  by_cases hk : k' = k
  · subst hk
    rw [update_self, hb]
    by_cases hj : j = i
    · subst hj
      rw [update_self, update_self]
    · rw [update_of_ne hj, update_of_ne fun heq => hj (congrArg Prod.snd heq)]
  · rw [update_of_ne hk, update_of_ne fun heq => hk (congrArg Prod.fst heq)]

/-- One key changes, and no page of another key. -/
theorem Sound.change (h : Sound w) {wr : Writing n} {hist : List Image}
    (hkeys : s.keys = update w.ns.keys k b) (hfenced : s.fenced = w.ns.fenced)
    (hpaged : Paged s.owner s.arenaUsed)
    (harena : ∀ k' p, k' ≠ k → ∀ i, ((w.ns.keys k').slots i).pageIdx = some p →
      s.arena p = w.ns.arena p)
    (htracks : Tracks s.arena b wr hist) :
    Sound ⟨s, update w.writing k wr, update w.history k hist⟩ := by
  refine ⟨hfenced.trans h.unfenced, hpaged, fun k' => ?_, fun keyId hle => ?_⟩
  · show Tracks s.arena (s.keys k') (update w.writing k wr k')
      (update w.history k hist k')
    rw [hkeys]
    by_cases hk : k' = k
    · subst hk
      rwa [update_self, update_self, update_self]
    · have hval := Fin.val_ne_of_ne hk
      rw [update_of_ne hk, update_of_ne hval, update_of_ne hval]
      exact (h.tracks k').congr fun i p hp => harena k' p hk i hp
  · have hne : keyId ≠ k := Nat.ne_of_gt (Nat.lt_of_lt_of_le k.isLt hle)
    show update w.writing k wr keyId = .idle ∧ update w.history k hist keyId = []
    rw [update_of_ne hne, update_of_ne hne]
    exact h.outside keyId hle

/-- One key changes, and no image. -/
theorem Sound.change' (h : Sound w) {wr : Writing n}
    (hkeys : s.keys = update w.ns.keys k b) (hfenced : s.fenced = w.ns.fenced)
    (hpaged : Paged s.owner s.arenaUsed)
    (harena : ∀ k' p, k' ≠ k → ∀ i, ((w.ns.keys k').slots i).pageIdx = some p →
      s.arena p = w.ns.arena p)
    (htracks : Tracks s.arena b wr (w.history k)) :
    Sound ⟨s, update w.writing k wr, w.history⟩ := by
  have hsound := h.change hkeys hfenced hpaged harena htracks
  rwa [update_eq_self] at hsound

/-- The page of the slot that is not active, given back. -/
theorem Sound.release (h : Sound w) (k : Fin n) :
    Sound ⟨w.ns.release k (w.ns.keys k).inactive, update w.writing k .idle, w.history⟩ ∧
    ((w.ns.release k (w.ns.keys k).inactive).keys k).inactive = (w.ns.keys k).inactive ∧
    (((w.ns.release k (w.ns.keys k).inactive).keys k).slots (w.ns.keys k).inactive).Vacant := by
  have htracks := h.tracks k
  unfold Ns.release
  split
  next hnone =>
    have hv : ((w.ns.keys k).slots (w.ns.keys k).inactive).Vacant := by
      have hspare := htracks.spare
      cases hwr : w.writing k with
      | idle =>
        rw [hwr] at hspare
        obtain hv | ⟨y, -, hholds⟩ := hspare
        · exact hv
        · obtain ⟨p, hp, -⟩ := hholds.page
          rw [hnone] at hp
          cases hp
      | opened p gen page =>
        rw [hwr] at hspare
        rw [hspare.1] at hnone
        cases hnone
      | abandoned =>
        rw [hwr] at hspare
        exact absurd hnone hspare.2
    refine ⟨h.change' (update_eq_self ..).symm rfl h.paged (fun _ _ _ _ _ => rfl) ?_,
      rfl, hv⟩
    exact ⟨htracks.active, .inl hv⟩
  next p hp =>
    refine ⟨h.change' rfl rfl ?_ (fun _ _ _ _ _ => rfl) (htracks.put (.inl ?_)), ?_, ?_⟩
    · rw [owner_update (w := w) (k := k) (i := (w.ns.keys k).inactive) (x := .free) rfl rfl]
      exact h.paged.release hp
    · exact Slot.vacant_free
    · show (update w.ns.keys k _ k).inactive = _
      rw [update_self]
      rfl
    · show ((update w.ns.keys k _ k).slots _).Vacant
      rw [update_self, DualMeta.put_self]
      exact Slot.vacant_free

/-- What makes a key one to reclaim from. -/
theorem reclaimable_iff : b.reclaimable = true ↔
    b.active ≠ none ∧ (∀ i, (b.slots i).present = true) ∧
      (b.slots b.inactive).pageIdx ≠ none := by
  unfold DualMeta.reclaimable DualMeta.older DualMeta.inactive
  cases b.active with
  | none => exact ⟨fun h => Bool.noConfusion h, fun h => absurd rfl h.1⟩
  | some a =>
    rw [Option.bind_some, Option.elim_some, Bool.forall_bool]
    by_cases hboth : ((b.slots false).present && (b.slots true).present) = true
    · have hall := Bool.and_eq_true_iff.1 hboth
      have ha : (b.slots !a).present = true := by
        cases a
        · exact hall.2
        · exact hall.1
      rw [if_pos hboth, Option.any_some, ha, Bool.and_true, Option.isSome_iff_ne_none]
      exact ⟨fun h => ⟨Option.some_ne_none a, hall, h⟩, fun h => h.2.2⟩
    · rw [if_neg hboth]
      exact ⟨fun h => Bool.noConfusion h, fun h => absurd (Bool.and_eq_true_iff.2 h.2.1) hboth⟩

/-- A key that can be reclaimed has nothing open. -/
theorem Sound.idle_of_reclaimable (h : Sound w) (hk : (w.ns.keys k).reclaimable = true) :
    w.writing k = .idle := by
  have hspare := (h.tracks k).spare
  have hpresent := (reclaimable_iff.1 hk).2.1 (w.ns.keys k).inactive
  cases hwr : w.writing k with
  | idle => rfl
  | opened | abandoned =>
    rw [hwr] at hspare
    rw [hspare.1] at hpresent
    cases hpresent

/-- A key whose slots both have a page, and nothing open, can be reclaimed. -/
theorem Sound.reclaimable (h : Sound w) (hwr : w.writing k = .idle)
    (hpages : ∀ i, ((w.ns.keys k).slots i).pageIdx ≠ none) :
    (w.ns.keys k).reclaimable = true := by
  have htracks := h.tracks k
  have hspare := htracks.spare
  rw [hwr] at hspare
  obtain hv | ⟨y, -, hold⟩ := hspare
  · exact absurd hv.2 (hpages _)
  obtain ⟨-, -, hv⟩ | ⟨a, x, ha, -, hnew⟩ := htracks.active
  · exact absurd hv.2 (hpages _)
  refine reclaimable_iff.2 ⟨?_, fun i => ?_, hpages _⟩
  · rw [ha]
    exact Option.some_ne_none a
  · by_cases hi : i = a
    · rw [hi]
      exact hnew.present
    · have hother : i = (w.ns.keys k).inactive :=
        (Bool.eq_not_of_ne hi).trans (Bool.eq_not_of_ne (DualMeta.inactive_ne ha)).symm
      rw [hother]
      exact hold.present

theorem reclaimOneOld_eq_some (hs : w.ns.reclaimOneOld = some s) :
    ∃ k, (w.ns.keys k).reclaimable = true ∧ s = w.ns.release k (w.ns.keys k).inactive := by
  unfold Ns.reclaimOneOld at hs
  obtain ⟨k, hk, rfl⟩ := Option.map_eq_some_iff.1 hs
  have hrec := List.find?_some hk
  exact ⟨k, hrec, rfl⟩

theorem arenaAlloc_eq_some {m : ℕ} {used : Fin m → Bool} {p : Fin m}
    (h : arenaAlloc used = some p) : used p = false := by
  have hp := List.find?_some h
  rwa [Bool.not_eq_true'] at hp

theorem arenaAlloc_isSome {m : ℕ} {used : Fin m → Bool} {p : Fin m} (h : used p = false) :
    ∃ q, arenaAlloc used = some q := by
  unfold arenaAlloc
  rw [← Option.isSome_iff_exists, List.find?_isSome]
  exact ⟨p, List.mem_finRange p, by rw [h]; rfl⟩

/-- A key without a page in one slot is not reclaimed. -/
theorem not_reclaimable {i : Bool} (hi : (b.slots i).Vacant) :
    b.reclaimable = false := by
  refine Bool.eq_false_of_not_eq_true fun hrec => ?_
  have hpresent := (reclaimable_iff.1 hrec).2.1 i
  rw [hi.1] at hpresent
  cases hpresent

/-- A page to take leaves every key without an older page as it is. -/
theorem Sound.allocate (h : Sound w) {r : Option (Fin (n + 1))} (hs : w.ns.allocate = (r, s)) :
    Sound ⟨s, w.writing, w.history⟩ ∧
    (∀ k, (w.ns.keys k).reclaimable = false → s.keys k = w.ns.keys k) ∧
    ∀ p, r = some p → s.arenaUsed p = false := by
  unfold Ns.allocate at hs
  split at hs
  next p hp =>
    cases hs
    refine ⟨h, fun _ _ => rfl, fun q hq => ?_⟩
    cases hq
    exact arenaAlloc_eq_some hp
  next =>
    split at hs
    next =>
      cases hs
      exact ⟨h, fun _ _ => rfl, fun q hq => by cases hq⟩
    next s' hs' =>
      cases hs
      obtain ⟨k, hk, rfl⟩ := reclaimOneOld_eq_some hs'
      obtain ⟨hsound, -⟩ := h.release k
      have hidle := h.idle_of_reclaimable hk
      rw [← hidle, update_eq_self] at hsound
      refine ⟨hsound, fun k' hk' => ?_, fun q hq => arenaAlloc_eq_some hq⟩
      unfold Ns.release
      split
      · rfl
      · refine update_of_ne ?_ _ _
        rintro rfl
        rw [hk] at hk'
        cases hk'

/-- While no other key has a write open or given up, there is a page to take. -/
theorem Sound.allocate_isSome (h : Sound w) {i : Bool} (hi : ((w.ns.keys k).slots i).Vacant)
    (hidle : ∀ k' : Fin n, k' ≠ k → w.writing k' = .idle) :
    ∃ p, w.ns.allocate.1 = some p := by
  unfold Ns.allocate
  split
  next p _ => exact ⟨p, rfl⟩
  next hnone =>
    have hall : ∀ p, w.ns.arenaUsed p = true := fun p => by
      refine Bool.eq_true_of_not_eq_false fun hp => ?_
      obtain ⟨q, hq⟩ := arenaAlloc_isSome hp
      rw [hnone] at hq
      cases hq
    obtain ⟨⟨k₁, i₁⟩, ⟨k₂, i₂⟩, hne, hkey, h₁, h₂⟩ := h.paged.exists_pair Prod.fst (by simp) hall
    cases (hkey : k₁ = k₂)
    have hpages : ∀ j, ((w.ns.keys k₁).slots j).pageIdx ≠ none := by
      intro j
      have hj : j = i₁ ∨ j = i₂ := by
        have : i₁ ≠ i₂ := fun heq => hne (by rw [heq])
        revert this
        cases i₁ <;> cases i₂ <;> cases j <;> decide
      obtain rfl | rfl := hj
      · exact Option.isSome_iff_ne_none.1 h₁
      · exact Option.isSome_iff_ne_none.1 h₂
    have hk : k₁ ≠ k := by
      rintro rfl
      exact hpages i hi.2
    have hrec := h.reclaimable (hidle k₁ hk) hpages
    obtain ⟨k₀, hk₀⟩ : ∃ k₀, ((List.finRange n).find? fun k => (w.ns.keys k).reclaimable) =
        some k₀ := by
      rw [← Option.isSome_iff_exists, List.find?_isSome]
      exact ⟨k₁, List.mem_finRange _, hrec⟩
    have hs : w.ns.reclaimOneOld = some (w.ns.release k₀ (w.ns.keys k₀).inactive) := by
      unfold Ns.reclaimOneOld
      rw [hk₀]
      rfl
    rw [hs]
    have hrec₀ := List.find?_some hk₀
    obtain ⟨p, hp⟩ := Option.ne_none_iff_exists'.1 (reclaimable_iff.1 hrec₀).2.2
    refine arenaAlloc_isSome (p := p) ?_
    unfold Ns.release
    rw [hp]
    exact update_self ..

/-- A page that is taken for a key. -/
theorem Sound.take (h : Sound w) (hv : ((w.ns.keys k).slots (w.ns.keys k).inactive).Vacant)
    (hp : w.ns.arenaUsed p = false) (page : Page) :
    Sound ⟨((w.ns.mark p true).put k (w.ns.keys k).inactive
        ⟨false, (w.ns.keys k).nextGeneration, 0, some p⟩).fill p page,
      update w.writing k (.opened p (w.ns.keys k).nextGeneration page), w.history⟩ := by
  have hpages : ∀ k' i, ((w.ns.keys k').slots i).pageIdx ≠ some p := fun k' i =>
    h.paged.not_own_of_unused hp (k', i)
  have harena : ∀ k' i q, ((w.ns.keys k').slots i).pageIdx = some q →
      update w.ns.arena p page q = w.ns.arena q := by
    intro k' i q hq
    refine update_of_ne ?_ _ _
    rintro rfl
    exact hpages k' i hq
  refine h.change' rfl rfl ?_ (fun k' q _ i hq => harena k' i q hq) ?_
  · rw [owner_update (w := w) (k := k) (i := (w.ns.keys k).inactive)
      (x := ⟨false, (w.ns.keys k).nextGeneration, 0, some p⟩) rfl rfl]
    exact h.paged.take hv.2 hp
  · refine ((h.tracks k).congr fun i q hq => harena k i q hq).put ?_
    refine ⟨rfl, update_self .., ?_⟩
    have hne : ∀ a, (w.ns.keys k).active = some a → a ≠ (w.ns.keys k).inactive := fun a ha =>
      (DualMeta.inactive_ne ha).symm
    unfold DualMeta.nextGeneration
    rw [DualMeta.put_active]
    cases ha : (w.ns.keys k).active with
    | none => rfl
    | some a =>
      rw [Option.elim_some, Option.elim_some, DualMeta.put_of_ne (hne a ha)]

/-- The page of a write that is open, filled. -/
theorem Sound.fill (h : Sound w) {gen : UInt64} {page : Page}
    (hwr : w.writing k = .opened p gen page) (page' : Page) :
    Sound ⟨w.ns.fill p page', update w.writing k (.opened p gen page'), w.history⟩ := by
  have htracks := h.tracks k
  have hspare := htracks.spare
  rw [hwr] at hspare
  obtain ⟨hx, -, hgen⟩ := hspare
  have hp : w.ns.owner (k, (w.ns.keys k).inactive) = some p := by
    show ((w.ns.keys k).slots (w.ns.keys k).inactive).pageIdx = _
    rw [hx]
  have harena : ∀ k' i q, (k', i) ≠ (k, (w.ns.keys k).inactive) →
      ((w.ns.keys k').slots i).pageIdx = some q →
      update w.ns.arena p page' q = w.ns.arena q := by
    intro k' i q hne hq
    refine update_of_ne ?_ _ _
    rintro rfl
    exact hne (h.paged.distinct _ _ _ hq hp)
  refine h.change' (update_eq_self ..).symm rfl h.paged
    (fun k' q hk i hq => harena k' i q (fun heq => hk (congrArg Prod.fst heq)) hq) ?_
  refine ⟨?_, ⟨hx, update_self .., hgen⟩⟩
  obtain hnone | ⟨a, x, ha, hy, hholds⟩ := htracks.active
  · exact .inl hnone
  · refine .inr ⟨a, x, ha, hy, hholds.congr fun q hq => harena k a q (fun heq => ?_) hq⟩
    exact DualMeta.inactive_ne ha (congrArg Prod.snd heq).symm

/-- The generation that comes next follows that of the last image. -/
theorem Tracks.nextGeneration {arena : Fin (n + 1) → Page} {wr : Writing n}
    {hist : List Image} (h : Tracks arena b wr hist) :
    b.nextGeneration = hist.head?.elim 1 fun x => succGeneration x.generation := by
  unfold DualMeta.nextGeneration
  obtain ⟨hnone, rfl, -⟩ | ⟨a, x, ha, hx, hholds⟩ := h.active
  · rw [hnone]
    rfl
  · rw [ha, hx, Option.elim_some, Option.elim_some, hholds.generation]

theorem Chained.cons {hist : List Image} (h : Chained hist) {x : Image}
    (hx : x.generation = hist.head?.elim 1 fun y => succGeneration y.generation) :
    Chained (x :: hist) := by
  refine ⟨fun y hy => ?_, fun i y z hy hz => ?_⟩
  · cases hist with
    | nil =>
      cases hy
      exact hx
    | cons x' hist =>
      rw [List.getLast?_cons_cons] at hy
      exact h.first y hy
  · cases i with
    | zero =>
      cases hy
      rw [hx, List.head?_eq_getElem?]
      have hz' : hist[0]? = some z := hz
      rw [hz', Option.elim_some]
    | succ i => exact h.next i y z hy hz

/-- A key whose open write was committed. -/
def DualMeta.committed (b : DualMeta n) (length : UInt32) : DualMeta n :=
  { b.put b.inactive { b.slots b.inactive with length := length, present := true } with
    active := some b.inactive }

theorem DualMeta.inactive_committed (length : UInt32) :
    (b.committed length).inactive = !b.inactive := rfl

theorem DualMeta.committed_other (length : UInt32) :
    (b.committed length).slots (!b.inactive) = b.slots (!b.inactive) := by
  refine DualMeta.put_of_ne ?_
  cases b.inactive <;> decide

/-- The image before the one committed is in the other slot. -/
theorem Tracks.committed_old {arena : Fin (n + 1) → Page} {wr : Writing n}
    {hist : List Image} (h : Tracks arena b wr hist) (length : UInt32) {x : Image}
    (hx : hist.head? = some x) :
    ((b.committed length).slots (b.committed length).inactive).Holds arena x := by
  rw [DualMeta.inactive_committed, DualMeta.committed_other]
  obtain ⟨-, rfl, -⟩ | ⟨a, y, ha, hy, hholds⟩ := h.active
  · cases hx
  · rw [hx] at hy
    cases hy
    have hinactive := DualMeta.inactive_some ha
    rwa [hinactive, Bool.not_not]

/-- A write that is open, committed. -/
theorem Tracks.commit {arena : Fin (n + 1) → Page} {hist : List Image}
    {gen : UInt64} {page : Page} (h : Tracks arena b (.opened p gen page) hist) (length : UInt32) :
    Tracks arena (b.committed length) .idle (⟨page, length, gen⟩ :: hist) := by
  obtain ⟨hx, hp, hgen⟩ := h.spare
  refine ⟨.inr ⟨b.inactive, ⟨page, length, gen⟩, rfl, rfl, ?_⟩, ?_⟩
  · show ((b.put b.inactive _).slots b.inactive).Holds arena _
    rw [DualMeta.put_self, hx]
    exact ⟨rfl, rfl, rfl, p, rfl, hp⟩
  · obtain ⟨hnone, -, hv⟩ | ⟨a, x, ha, hy, hholds⟩ := h.active
    · have hinactive := DualMeta.inactive_none hnone
      rw [DualMeta.inactive_committed, DualMeta.committed_other, hinactive]
      exact .inl hv
    · refine .inr ⟨x, ?_, h.committed_old length hy⟩
      rw [← hy, List.head?_eq_getElem?]
      rfl

theorem Sound.commit (h : Sound w) {gen : UInt64} {page : Page}
    (hwr : w.writing k = .opened p gen page) {length : UInt32}
    (hs : w.ns.commit k length = (true, s)) :
    Sound ⟨s, update w.writing k .idle,
      update w.history k (⟨page, length, gen⟩ :: w.history k)⟩ := by
  have htracks := h.tracks k
  rw [hwr] at htracks
  unfold Ns.commit at hs
  split at hs
  next hcond =>
    dsimp only at hs
    split at hs
    · cases hs
    · cases hs
      refine h.change rfl rfl ?_ (fun _ _ _ _ _ => rfl) (htracks.commit length)
      rw [owner_update (w := w) (k := k) (i := (w.ns.keys k).inactive) (x := {
        (w.ns.keys k).slots (w.ns.keys k).inactive with length := length, present := true }) rfl rfl]
      show Paged (update w.ns.owner (k, (w.ns.keys k).inactive)
        (w.ns.owner (k, (w.ns.keys k).inactive))) w.ns.arenaUsed
      rw [update_eq_self]
      exact h.paged
  next => cases hs

variable {keyId : ℕ}

theorem commit_false {length : UInt32} (hs : w.ns.commit keyId length = (false, s)) :
    s = w.ns := by
  unfold Ns.commit at hs
  split at hs
  · dsimp only at hs
    split at hs
    · cases hs
      rfl
    · cases hs
  · cases hs
    rfl

/-- What opening a write does, once there is nothing in its slot. -/
theorem Sound.begin (h : Sound w) {r : Option (Fin (n + 1) × UInt64)}
    (hs : w.ns.beginWrite keyId = (r, s)) :
    Sound ⟨s, update w.writing keyId
      (r.elim .idle fun x => .opened x.1 x.2 .zero), w.history⟩ := by
  unfold Ns.beginWrite at hs
  split at hs
  next hcond =>
    obtain ⟨hsound, hinactive, hv⟩ := h.release ⟨keyId, hcond.2⟩
    dsimp only at hs
    split at hs
    next s' hs' =>
      cases hs
      exact (hsound.allocate hs').1
    next p s' hs' =>
      cases hs
      obtain ⟨hsound', hkeys, hunused⟩ := hsound.allocate hs'
      have hk := hkeys ⟨keyId, hcond.2⟩ (not_reclaimable hv)
      have htake := hsound'.take (k := ⟨keyId, hcond.2⟩) (p := p) (by
        rw [hk, hinactive]
        exact hv) (hunused p rfl) .zero
      rw [hk, hinactive, Function.update_idem] at htake
      rw [hk]
      exact htake
  next hcond =>
    cases hs
    have hidle : w.writing keyId = .idle := by
      refine (h.outside keyId ?_).1
      refine Nat.not_lt.1 fun hlt => hcond ⟨h.unfenced, hlt⟩
    rw [Option.elim_none, ← hidle, update_eq_self]
    exact h

theorem sound_init : Sound (.init : World n) where
  unfenced := rfl
  paged := paged_empty
  tracks _ := ⟨.inl ⟨rfl, rfl, Slot.vacant_free⟩, .inl Slot.vacant_free⟩
  outside _ _ := ⟨rfl, rfl⟩

theorem Sound.lt_of_opened (h : Sound w) {gen : UInt64} {page : Page}
    (hwr : w.writing keyId = .opened p gen page) : keyId < n := by
  refine Nat.lt_of_not_le fun hle => ?_
  rw [(h.outside keyId hle).1] at hwr
  cases hwr

/-- Every step keeps a sound world sound. -/
theorem Step.sound {w' : World n} (h : Step w w') (hw : Sound w) : Sound w' := by
  cases h with
  | begin h => exact hw.begin h
  | refused h => exact hw.begin h
  | fill h page' => exact hw.fill (k := ⟨_, hw.lt_of_opened h⟩) h page'
  | commit h hs => exact hw.commit (k := ⟨_, hw.lt_of_opened h⟩) h hs
  | uncommitted hs =>
    have heq : _ = w.ns := (commit_false hs)
    rw [heq]
    exact hw
  | abandon h =>
    have htracks := hw.tracks ⟨_, hw.lt_of_opened h⟩
    have hspare := htracks.spare
    rw [h] at hspare
    refine hw.change' (k := ⟨_, hw.lt_of_opened h⟩) (update_eq_self ..).symm rfl hw.paged
      (fun _ _ _ _ _ => rfl) ?_
    refine ⟨htracks.active, ?_⟩
    rw [SpareIs, hspare.1]
    exact ⟨rfl, Option.some_ne_none _⟩

theorem Reachable.sound (h : Reachable w) : Sound w := by
  induction h with
  | init => exact sound_init
  | step _ hstep ih => exact hstep.sound ih

theorem Step.chained {w' : World n} (h : Step w w') (hw : Sound w)
    (hc : ∀ keyId, Chained (w.history keyId)) (keyId : ℕ) : Chained (w'.history keyId) := by
  cases h with
  | commit h hs =>
    rename_i keyId' p gen page length s
    show Chained (update w.history keyId' _ keyId)
    by_cases hk : keyId = keyId'
    · subst hk
      have htracks := hw.tracks ⟨keyId, hw.lt_of_opened h⟩
      have hspare := htracks.spare
      rw [h] at hspare
      rw [update_self]
      exact (hc keyId).cons (hspare.2.2.trans htracks.nextGeneration)
    · rw [update_of_ne hk]
      exact hc keyId
  | begin | refused | fill | uncommitted | abandon => exact hc keyId

/-- The images committed to a key have one generation after another. -/
theorem Reachable.chained (h : Reachable w) (keyId : ℕ) : Chained (w.history keyId) := by
  induction h generalizing keyId with
  | init => exact chained_nil
  | step hw hstep ih => exact hstep.chained hw.sound ih keyId

/-! ### What readers and writers may rely on -/

theorem image_of_holds {s : Ns n} {x : Slot n} {im : Image} (h : x.Holds s.arena im) :
    s.image x = some im := by
  obtain ⟨p, hp, him⟩ := h.page
  unfold Ns.image
  rw [hp, Option.map_some, him, h.length, h.generation]

theorem Sound.readActive (h : Sound w) (keyId : ℕ) :
    w.ns.readActive keyId = (w.history keyId).head? := by
  unfold Ns.readActive
  split
  next hlt =>
    obtain ⟨hnone, hnil, -⟩ | ⟨a, x, ha, hx, hholds⟩ := (h.tracks ⟨keyId, hlt⟩).active
    · rw [hnone, hnil]
      rfl
    · rw [ha, Option.bind_some, if_pos hholds.present, hx, image_of_holds hholds]
  next hlt =>
    rw [(h.outside keyId (Nat.le_of_not_lt hlt)).2]
    rfl

/-- What the slots of a key hold. -/
theorem Sound.slots (h : Sound w) (k : Fin n) :
    ((w.ns.keys k).active = none ∧ w.history k = [] ∧ ∀ i, ((w.ns.keys k).slots i).present = false) ∨
    ∃ a x, (w.ns.keys k).active = some a ∧ (w.history k)[0]? = some x ∧
      ((w.ns.keys k).slots a).Holds w.ns.arena x ∧
      (((w.ns.keys k).slots !a).present = false ∨ ∃ y, (w.history k)[1]? = some y ∧
        ((w.ns.keys k).slots !a).Holds w.ns.arena y) := by
  have hspare := (h.tracks k).spare
  have hcases : ((w.ns.keys k).slots (w.ns.keys k).inactive).present = false ∨
      ∃ y, (w.history k)[1]? = some y ∧
        ((w.ns.keys k).slots (w.ns.keys k).inactive).Holds w.ns.arena y := by
    cases hwr : w.writing k with
    | idle =>
      rw [hwr] at hspare
      obtain hv | hy := hspare
      · exact .inl hv.1
      · exact .inr hy
    | opened p gen page =>
      rw [hwr] at hspare
      rw [hspare.1]
      exact .inl rfl
    | abandoned =>
      rw [hwr] at hspare
      exact .inl hspare.1
  obtain ⟨hnone, hnil, hv⟩ | ⟨a, x, ha, hx, hholds⟩ := (h.tracks k).active
  · refine .inl ⟨hnone, hnil, ?_⟩
    rw [DualMeta.inactive_none hnone, hnil] at hcases
    obtain hf | ⟨y, hy, -⟩ := hcases
    · rw [Bool.forall_bool]
      exact ⟨hf, hv.1⟩
    · cases hy
  · rw [DualMeta.inactive_some ha] at hcases
    rw [List.head?_eq_getElem?] at hx
    exact .inr ⟨a, x, ha, hx, hholds, hcases⟩

/-- What a reader gets of the older image of a key. -/
theorem Sound.retained (h : Sound w) {x : Image}
    (hx : w.ns.readRetainedOld keyId = some x) : ∃ hlt : keyId < n,
      (w.history keyId)[1]? = some x ∧
      ∃ i, ((w.ns.keys ⟨keyId, hlt⟩).slots i).Holds w.ns.arena x := by
  unfold Ns.readRetainedOld DualMeta.older at hx
  split at hx
  next hlt =>
    refine ⟨hlt, ?_⟩
    obtain ⟨hnone, -, -⟩ | ⟨a, y, ha, -, hnew, hold | ⟨z, hz, hold⟩⟩ := h.slots ⟨keyId, hlt⟩
    · rw [hnone] at hx
      cases hx
    · rw [ha, Option.bind_some, DualMeta.both_present hnew.present hold] at hx
      cases hx
    · rw [ha, Option.bind_some] at hx
      split at hx
      · rw [Option.bind_some] at hx
        split at hx
        · rw [image_of_holds hold] at hx
          cases hx
          exact ⟨hz, _, hold⟩
        · cases hx
      · cases hx
  next => cases hx

theorem Sound.readRetainedOld (h : Sound w) {x : Image}
    (hx : w.ns.readRetainedOld keyId = some x) : (w.history keyId)[1]? = some x := by
  obtain ⟨-, hhist, -⟩ := h.retained hx
  exact hhist

/-- An older image that was not given back can be read. -/
theorem Sound.readRetainedOld_held (h : Sound w)
    (hkept : ∀ y, (w.history k)[1]? = some y →
      ((w.ns.keys k).slots (w.ns.keys k).inactive).Holds w.ns.arena y)
    (hord : ∀ x y, (w.history k)[0]? = some x → (w.history k)[1]? = some y →
      y.generation < x.generation) : w.ns.readRetainedOld k = (w.history k)[1]? := by
  unfold Ns.readRetainedOld DualMeta.older
  rw [dif_pos k.isLt]
  dsimp only [Fin.eta]
  obtain ⟨hnone, hnil, -⟩ | ⟨a, x, ha, hx, hnew, hold | ⟨y, hy, hold⟩⟩ := h.slots k
  · rw [hnone, hnil]
    rfl
  · have hboth := DualMeta.both_present hnew.present hold
    have hnone : (w.history k)[1]? = none := by
      refine Option.eq_none_iff_forall_ne_some.2 fun y hy => ?_
      have hpresent := (hkept y hy).present
      rw [DualMeta.inactive_some ha, hold] at hpresent
      cases hpresent
    rw [ha, Option.bind_some, hboth, hnone]
    rfl
  · have hboth := DualMeta.both_present hnew.present hold.present
    have hlt : ((w.ns.keys k).slots !a).generation < ((w.ns.keys k).slots a).generation := by
      rw [hnew.generation, hold.generation]
      exact hord x y hx hy
    rw [ha, Option.bind_some, if_pos hboth, Option.bind_some, Bool.not_not, if_pos hlt,
      image_of_holds hold, hy]

theorem Sound.begin_isSome (h : Sound w) (hlt : keyId < n)
    (hidle : ∀ k', k' ≠ keyId → w.writing k' = .idle) :
    ∃ r, (w.ns.beginWrite keyId).1 = some r := by
  obtain ⟨hsound, -, hv⟩ := h.release ⟨keyId, hlt⟩
  obtain ⟨p, hp⟩ := hsound.allocate_isSome hv fun k' hk' => by
    show update w.writing keyId .idle k' = .idle
    rw [update_of_ne (Fin.val_ne_of_ne hk')]
    exact hidle k' (Fin.val_ne_of_ne hk')
  unfold Ns.beginWrite
  rw [dif_pos ⟨h.unfenced, hlt⟩]
  dsimp only
  split
  next s' hs' =>
    rw [hs'] at hp
    cases hp
  next q s' hs' => exact ⟨_, rfl⟩

end Namespaces

/-- While no writer has anything open, a page can be written to any key; the image before it stays,
unless the generations went round. -/
theorem Reachable.write {w : World n} (h : Reachable w) (hidle : ∀ k, w.writing k = .idle)
    (keyId : ℕ) (hlt : keyId < n) (page : Page) (length : UInt32)
    (hlen : length.toNat ≤ pageBytes) :
    ∃ w' : World n, Reachable w' ∧ (∀ k, w'.writing k = .idle) ∧
      w'.history = update w.history keyId (⟨page, length,
        (w.history keyId).head?.elim 1 fun y => succGeneration y.generation⟩ ::
          w.history keyId) ∧
      ∀ x, (w.history keyId).head? = some x → x.generation < succGeneration x.generation →
        w'.ns.readRetainedOld keyId = some x := by
  obtain ⟨⟨p, gen⟩, hr⟩ := h.sound.begin_isSome hlt fun k _ => hidle k
  obtain ⟨s, hs⟩ : ∃ s, w.ns.beginWrite keyId = (some (p, gen), s) := ⟨_, Prod.ext hr rfl⟩
  have hfilled := (h.step (.begin hs)).step (.fill (update_self ..) page)
  have htracks : Tracks (s.fill p page).arena (s.keys ⟨keyId, hlt⟩) (.opened p gen page)
      (w.history keyId) := by
    have hwriting := update_self keyId (.opened p gen page)
      (update w.writing keyId (.opened p gen .zero))
    exact hwriting ▸ hfilled.sound.tracks ⟨keyId, hlt⟩
  have hcommit : (s.fill p page).commit keyId length = (true, { s.fill p page with
      keys := update s.keys ⟨keyId, hlt⟩ ((s.keys ⟨keyId, hlt⟩).committed length) }) := by
    have hpage : ((s.keys ⟨keyId, hlt⟩).slots (s.keys ⟨keyId, hlt⟩).inactive).pageIdx.isNone =
        false := by
      rw [htracks.spare.1]
      rfl
    unfold Ns.commit
    rw [dif_pos ⟨hfilled.sound.unfenced, hlt, hlen⟩]
    exact if_neg (Bool.eq_false_iff.1 hpage)
  have hreached := hfilled.step (.commit (update_self ..) hcommit)
  have hgen := htracks.spare.2.2.trans htracks.nextGeneration
  refine ⟨_, hreached, fun k => ?_, by rw [hgen], fun x hx hnext => ?_⟩
  · by_cases hk : k = keyId
    · subst hk
      exact update_self ..
    · exact (update_of_ne hk ..).trans ((update_of_ne hk ..).trans
        ((update_of_ne hk ..).trans (hidle k)))
  · have hold : (update w.history keyId (⟨page, length, gen⟩ :: w.history keyId) keyId)[1]? =
        some x := by
      rw [update_self, ← hx, List.head?_eq_getElem?]
      rfl
    refine (hreached.sound.readRetainedOld_held (k := ⟨keyId, hlt⟩) (fun y hy => ?_)
      fun y z hy hz => ?_).trans hold
    · rw [hold] at hy
      cases hy
      show ((update s.keys ⟨keyId, hlt⟩ _ ⟨keyId, hlt⟩).slots
        (update s.keys ⟨keyId, hlt⟩ _ ⟨keyId, hlt⟩).inactive).Holds _ _
      rw [update_self]
      exact htracks.committed_old length hx
    · rw [hold] at hz
      change (update w.history keyId (⟨page, length, gen⟩ :: w.history keyId) keyId)[0]? = _ at hy
      rw [update_self] at hy
      cases hy
      cases hz
      rw [hgen, hx]
      exact hnext

/-- A step commits one image to one key, or leaves what readers get of every key. -/
theorem Step.history {w w' : World n} (h : Step w w') (keyId : ℕ) :
    w'.history keyId = w.history keyId ∨ ∃ x, w'.history keyId = x :: w.history keyId := by
  cases h with
  | commit h hs =>
    rename_i keyId' p gen page length s
    by_cases hk : keyId = keyId'
    · subst hk
      exact .inr ⟨_, update_self ..⟩
    · exact .inl (update_of_ne hk ..)
  | begin | refused | fill | uncommitted | abandon => exact .inl rfl

theorem toNat_succGeneration {g : UInt64} (h : g.toNat < 2 ^ 64 - 1) :
    (succGeneration g).toNat = g.toNat + 1 := by
  have hsucc := Words.toNat_succ (a := g) (by omega)
  have hne : g + 1 ≠ 0 := fun heq => by
    rw [heq] at hsucc
    cases hsucc
  unfold succGeneration
  rw [if_neg hne, hsucc]

/-- **What readers and writers may rely on**, whatever the writers of all keys did. No two slots
share a page, and the pages used are the pages of the slots; a reader gets the last image committed
to a key, through every step until the next commit to it, and from the retained slot only the image
before; each image of a key has the next generation; and a write opens whenever no other key has one
open or given up. -/
theorem dual_store {w : World n} (h : Reachable w) :
    ((∀ k i k' i' p, ((w.ns.keys k).slots i).pageIdx = some p →
        ((w.ns.keys k').slots i').pageIdx = some p → k = k' ∧ i = i') ∧
      ∀ p, w.ns.arenaUsed p = true ↔ ∃ k i, ((w.ns.keys k).slots i).pageIdx = some p) ∧
    ((∀ keyId, w.ns.readActive keyId = (w.history keyId).head?) ∧
      ∀ w' keyId, Step w w' → w'.ns.readActive keyId = w.ns.readActive keyId ∨
        ∃ x, w'.history keyId = x :: w.history keyId ∧ w'.ns.readActive keyId = some x) ∧
    (∀ keyId, (∀ x, (w.history keyId).getLast? = some x → x.generation = 1) ∧
      ∀ i x y, (w.history keyId)[i]? = some x → (w.history keyId)[i + 1]? = some y →
        y.generation.toNat < 2 ^ 64 - 1 → x.generation.toNat = y.generation.toNat + 1) ∧
    (∀ keyId x, w.ns.readRetainedOld keyId = some x → (w.history keyId)[1]? = some x) ∧
    ∀ keyId, keyId < n → (∀ k', k' ≠ keyId → w.writing k' = .idle) →
      ∃ r, (w.ns.beginWrite keyId).1 = some r := by
  have hw := h.sound
  refine ⟨⟨fun k i k' i' p hp hp' => ?_, fun p => ?_⟩, ⟨hw.readActive, fun w' keyId hstep => ?_⟩,
    fun keyId => ?_, fun keyId x hx => hw.readRetainedOld hx,
    fun keyId hlt hidle => hw.begin_isSome hlt hidle⟩
  · have heq := hw.paged.distinct (k, i) (k', i') p hp hp'
    exact ⟨congrArg Prod.fst heq, congrArg Prod.snd heq⟩
  · rw [hw.paged.used_iff, Prod.exists]
    rfl
  · have hw' := hstep.sound hw
    rw [hw'.readActive, hw.readActive]
    obtain heq | ⟨x, hx⟩ := hstep.history keyId
    · exact .inl (by rw [heq])
    · exact .inr ⟨x, hx, by rw [hx]; rfl⟩
  · have hchained := h.chained keyId
    refine ⟨hchained.first, fun i x y hx hy hlt => ?_⟩
    rw [hchained.next i x y hx hy, toNat_succGeneration hlt]

/-- A namespace of routes with one page of key 5 and two of key 3: readers get the last page of each,
and the older one of key 3. -/
theorem dual_store_two : ∃ w : World physicalKeyCount, Reachable w ∧
    w.ns.readActive 5 = some ⟨.zero, 3, 1⟩ ∧ w.ns.readActive 3 = some ⟨.zero, 5, 2⟩ ∧
    w.ns.readRetainedOld 3 = some ⟨.zero, 4, 1⟩ := by
  obtain ⟨w₁, h₁, hidle₁, hhist₁, -⟩ := (Reachable.init (n := physicalKeyCount)).write
    (fun _ => rfl) 5 (by decide) .zero 3 (by decide)
  obtain ⟨w₂, h₂, hidle₂, hhist₂, -⟩ := h₁.write hidle₁ 3 (by decide) .zero 4
    (by decide)
  obtain ⟨w₃, h₃, -, hhist₃, hold⟩ := h₂.write hidle₂ 3 (by decide) .zero 5 (by decide)
  have h5 : w₁.history 5 = [⟨.zero, 3, 1⟩] := by
    rw [hhist₁, update_self]
    rfl
  have h3 : w₂.history 3 = [⟨.zero, 4, 1⟩] := by
    rw [hhist₂, update_self, hhist₁, update_of_ne (by decide)]
    rfl
  have hactive := (dual_store h₃).2.1.1
  refine ⟨w₃, h₃, ?_, ?_, hold _ (by rw [h3]; rfl) (by decide)⟩
  · rw [hactive 5, hhist₃, update_of_ne (by decide), hhist₂, update_of_ne (by decide), h5]
    rfl
  · rw [hactive 3, hhist₃, update_self, h3]
    rfl

end Ninlil.RouteRelay
