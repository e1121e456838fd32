import Ninlil.RouteRelay.Restart

/-!
# The dual-page store: loading the records of an image

* `Sound.load`: a record is always written; with a page to spare, nothing else is lost;
* `loadFrom_records`: what a namespace holds once all records are written.
-/

namespace Ninlil.RouteRelay

open Bytes Owners
open Function (update update_of_ne update_self update_eq_self)

variable {n : ℕ}

/-- The image that a record becomes. -/
def Record.image (r : Record) : Image := ⟨Page.zero.write r.body, r.length, r.generation⟩

/-- Nothing is open or given up. -/
def Idle (w : World n) : Prop := ∀ keyId, w.writing keyId = .idle

/-- No older image was given back. -/
def Kept (w : World n) : Prop :=
  ∀ (k : Fin n) y, (w.history k)[1]? = some y →
    ((w.ns.keys k).slots (w.ns.keys k).inactive).Holds w.ns.arena y

/-- The number of pages used. -/
def Ns.usedCount (s : Ns n) : ℕ := (Finset.univ.filter fun p => s.arenaUsed p = true).card

section Counts

variable {s s' : Ns n} {k : Fin n} {i : Bool} {p : Fin (n + 1)}

theorem usedCount_mono (h : ∀ p, s.arenaUsed p = true → s'.arenaUsed p = true) :
    s.usedCount ≤ s'.usedCount := by
  refine Finset.card_le_card fun p hp => ?_
  rw [Finset.mem_filter] at hp ⊢
  exact ⟨hp.1, h p hp.2⟩

theorem release_used (h : (s.release k i).arenaUsed p = true) : s.arenaUsed p = true := by
  unfold Ns.release at h
  split at h
  · exact h
  · have h' : update s.arenaUsed _ false p = true := h
    rw [Function.update_apply] at h'
    split at h'
    · cases h'
    · exact h'

theorem allocate_used {r : Option (Fin (n + 1))} (hs : s.allocate = (r, s'))
    (h : s'.arenaUsed p = true) : s.arenaUsed p = true := by
  unfold Ns.allocate at hs
  split at hs
  · cases hs
    exact h
  · split at hs
    · cases hs
      exact h
    next s'' hs'' =>
      cases hs
      unfold Ns.reclaimOneOld at hs''
      obtain ⟨k, -, rfl⟩ := Option.map_eq_some_iff.1 hs''
      exact release_used h

theorem usedCount_mark : (s.mark p true).usedCount ≤ s.usedCount + 1 := by
  have hsub : (Finset.univ.filter fun q => (s.mark p true).arenaUsed q = true) ⊆
      insert p (Finset.univ.filter fun q => s.arenaUsed q = true) := by
    intro q hq
    rw [Finset.mem_filter] at hq
    rw [Finset.mem_insert, Finset.mem_filter]
    have hq' : update s.arenaUsed p true q = true := hq.2
    rw [Function.update_apply] at hq'
    split at hq'
    next heq => exact .inl heq
    next => exact .inr ⟨Finset.mem_univ q, hq'⟩
  exact (Finset.card_le_card hsub).trans (Finset.card_insert_le _ _)

theorem beginWrite_usedCount {keyId : ℕ} {r : Option (Fin (n + 1) × UInt64)}
    (hs : s.beginWrite keyId = (r, s')) : s'.usedCount ≤ s.usedCount + 1 := by
  unfold Ns.beginWrite at hs
  split at hs
  · dsimp only at hs
    split at hs
    next t ht =>
      cases hs
      exact (usedCount_mono fun p hp => release_used (allocate_used ht hp)).trans (Nat.le_succ _)
    next p t ht =>
      cases hs
      refine (usedCount_mark (s := t) (p := p)).trans (Nat.succ_le_succ ?_)
      exact usedCount_mono fun p hp => release_used (allocate_used ht hp)
  · cases hs
    exact Nat.le_succ _

/-- Fewer pages used than there are: one is not. -/
theorem exists_unused (h : s.usedCount < n + 1) : ∃ p, s.arenaUsed p = false := by
  by_contra hall
  have hall' : ∀ p, s.arenaUsed p = true := fun p =>
    Bool.eq_true_of_not_eq_false fun hp => hall ⟨p, hp⟩
  have hcard : s.usedCount = n + 1 := by
    unfold Ns.usedCount
    rw [Finset.filter_true_of_mem fun p _ => hall' p, Finset.card_univ, Fintype.card_fin]
  omega

end Counts

/-! ### One record -/

/-- Another key, and its pages, are as they were. -/
def SameBut (k : Fin n) (s s' : Ns n) : Prop :=
  ∀ k', k' ≠ k → s'.keys k' = s.keys k' ∧
    ∀ i p, ((s.keys k').slots i).pageIdx = some p → s'.arena p = s.arena p

section Loads

variable {w : World n} {s s' s'' : Ns n} {k : Fin n} {r : Record}

theorem SameBut.trans (h : SameBut k s s') (h' : SameBut k s' s'') : SameBut k s s'' := by
  intro k' hk'
  obtain ⟨hkeys, harena⟩ := h k' hk'
  obtain ⟨hkeys', harena'⟩ := h' k' hk'
  refine ⟨hkeys'.trans hkeys, fun i p hp => (harena' i p ?_).trans (harena i p hp)⟩
  rw [hkeys]
  exact hp

theorem sameBut_keys {b : DualMeta n} (hkeys : s'.keys = update s.keys k b)
    (harena : s'.arena = s.arena) : SameBut k s s' := fun k' hk' =>
  ⟨by rw [hkeys, update_of_ne hk'], fun _ _ _ => by rw [harena]⟩

theorem sameBut_release (i : Bool) : SameBut k s (s.release k i) := by
  unfold Ns.release
  split
  · exact fun k' _ => ⟨rfl, fun _ _ _ => rfl⟩
  · exact sameBut_keys rfl rfl

/-- With a page to spare, opening a write takes nothing from the other keys. -/
theorem Sound.sameBut_begin (h : Sound w) (hroom : ∃ p, w.ns.arenaUsed p = false)
    {x : Fin (n + 1) × UInt64} (hs : w.ns.beginWrite k = (some x, s)) : SameBut k w.ns s := by
  unfold Ns.beginWrite at hs
  split at hs
  next hcond =>
    dsimp only at hs
    split at hs
    next => cases hs
    next p s' hs' =>
      cases hs
      obtain ⟨hsound, -, -⟩ := h.release ⟨k, hcond.2⟩
      obtain ⟨q, hq⟩ := hroom
      have hfree : (w.ns.release k (w.ns.keys k).inactive).arenaUsed q = false :=
        Bool.eq_false_of_not_eq_true fun ht => by
          rw [release_used ht] at hq
          cases hq
      obtain ⟨p', hp'⟩ := arenaAlloc_isSome hfree
      have hsame : s' = w.ns.release k (w.ns.keys k).inactive ∧ p = p' := by
        unfold Ns.allocate at hs'
        have hp'' : arenaAlloc (w.ns.release ⟨k, hcond.2⟩
          (w.ns.keys ⟨k, hcond.2⟩).inactive).arenaUsed = some p' := hp'
        rw [hp''] at hs'
        cases hs'
        exact ⟨rfl, rfl⟩
      obtain ⟨rfl, rfl⟩ := hsame
      refine (sameBut_release (w.ns.keys k).inactive).trans fun k' hk' =>
        ⟨update_of_ne hk' .., fun i q hq => update_of_ne ?_ ..⟩
      rintro rfl
      have hused : (w.ns.release k (w.ns.keys k).inactive).arenaUsed q = true :=
        hsound.paged.used_of_own (i := (k', i)) hq
      rw [arenaAlloc_eq_some hp'] at hused
      cases hused
  next => cases hs

/-- The generation of the last image, patched. -/
theorem Sound.setGeneration (h : Sound w) (hidle : Idle w) {x : Image} {rest : List Image}
    (hhist : w.history k = x :: rest) (gen : UInt64) :
    Sound ⟨w.ns.setGeneration k gen, w.writing,
      update w.history k ({ x with generation := gen } :: rest)⟩ ∧
    SameBut k w.ns (w.ns.setGeneration k gen) ∧
    ((w.ns.setGeneration k gen).keys k).slots (w.ns.keys k).inactive =
      (w.ns.keys k).slots (w.ns.keys k).inactive ∧
    ((w.ns.setGeneration k gen).keys k).inactive = (w.ns.keys k).inactive ∧
    (w.ns.setGeneration k gen).arena = w.ns.arena ∧
    (w.ns.setGeneration k gen).arenaUsed = w.ns.arenaUsed := by
  have htracks := h.tracks k
  have hspare := htracks.spare
  rw [hidle k, hhist] at hspare
  obtain ⟨-, hnil, -⟩ | ⟨a, y, ha, hy, hholds⟩ := htracks.active
  · rw [hhist] at hnil
    cases hnil
  rw [hhist] at hy
  cases hy
  have hset : w.ns.setGeneration k gen =
      w.ns.put k a { (w.ns.keys k).slots a with generation := gen } := by
    unfold Ns.setGeneration
    rw [dif_pos k.isLt]
    dsimp only [Fin.eta]
    rw [ha, Option.elim_some]
  rw [hset]
  have hne := DualMeta.inactive_ne ha
  refine ⟨?_, sameBut_keys rfl rfl, ?_, ?_, rfl, rfl⟩
  · have hpatched : Sound ⟨w.ns.put k a { (w.ns.keys k).slots a with generation := gen },
        update w.writing k .idle,
        update w.history k ({ x with generation := gen } :: rest)⟩ := by
      refine h.change rfl rfl ?_ (fun _ _ _ _ _ => rfl) ?_
      · rw [owner_update (w := w) (k := k) (i := a)
          (x := { (w.ns.keys k).slots a with generation := gen }) rfl rfl]
        show Paged (update w.ns.owner (k, a) (w.ns.owner (k, a))) w.ns.arenaUsed
        rw [update_eq_self]
        exact h.paged
      · refine ⟨.inr ⟨a, _, ha, rfl, ?_⟩, ?_⟩
        · rw [DualMeta.put_self]
          exact ⟨hholds.present, rfl, hholds.length, hholds.page⟩
        · rw [DualMeta.put_inactive, DualMeta.put_of_ne hne]
          exact hspare
    rwa [← hidle k, update_eq_self] at hpatched
  · show ((update w.ns.keys k _) k).slots _ = _
    rw [update_self, DualMeta.put_of_ne hne]
  · show ((update w.ns.keys k _) k).inactive = _
    rw [update_self, DualMeta.put_inactive]

/-- What writing a record does. -/
structure Loaded (w : World n) (k : Fin n) (r : Record) (s : Ns n) : Prop where
  sound : Sound ⟨s, w.writing, update w.history k (r.image :: w.history k)⟩
  used : s.usedCount ≤ w.ns.usedCount + 1
  kept : Kept w → (∃ p, w.ns.arenaUsed p = false) →
    Kept ⟨s, w.writing, update w.history k (r.image :: w.history k)⟩

/-- A record is always written; with a page to spare, nothing else is lost. -/
theorem Sound.load (h : Sound w) (hidle : Idle w) (hk : r.kid.toNat = k)
    (hlen : r.length.toNat ≤ pageBytes) : ∃ s, w.ns.load r = (true, s) ∧ Loaded w k r s := by
  -- The write opens, as no other key has one open.
  obtain ⟨⟨p, gen⟩, hp⟩ := h.begin_isSome k.isLt fun k' _ => hidle k'
  rcases hbegin : w.ns.beginWrite k with ⟨o, s₁⟩
  rw [hbegin] at hp
  cases hp
  have hsound₁ := h.begin hbegin
  have hsound₂ := hsound₁.fill (k := k) (update_self ..) (Page.zero.write r.body)
  dsimp only at hsound₂
  rw [Function.update_idem] at hsound₂
  -- The commit finds its page.
  have hopened : update w.writing k (.opened p gen (Page.zero.write r.body)) k =
    .opened p gen (Page.zero.write r.body) := update_self ..
  have htracks₂ := hsound₂.tracks k
  have hspare₂ := htracks₂.spare
  dsimp only at hspare₂
  rw [hopened] at hspare₂
  have hcommit : (s₁.fill p (Page.zero.write r.body)).commit k r.length =
      (true, { s₁.fill p (Page.zero.write r.body) with
        keys := update s₁.keys k ((s₁.keys k).committed r.length) }) := by
    unfold Ns.commit
    rw [dif_pos ⟨hsound₂.unfenced, k.isLt, hlen⟩]
    dsimp only [Fin.eta]
    rw [if_neg]
    · rfl
    · rw [hspare₂.1]
      exact Bool.false_ne_true
  have hsound₃ := hsound₂.commit hopened hcommit
  dsimp only at hsound₃
  rw [Function.update_idem, ← hidle k, update_eq_self] at hsound₃
  -- The generation is patched.
  obtain ⟨hsound₄, hsame₄, hslot₄, hinactive₄, harena₄, hused₄⟩ := hsound₃.setGeneration (k := k)
    hidle (update_self ..) r.generation
  dsimp only at hsound₄ hsame₄ hslot₄ hinactive₄ harena₄ hused₄
  rw [Function.update_idem] at hsound₄
  refine ⟨_, ?_, hsound₄, ?_, fun hkept hroom => ?_⟩
  · unfold Ns.load
    rw [hk, hbegin]
    dsimp only
    rw [hcommit]
  · refine le_trans (le_of_eq ?_) (beginWrite_usedCount hbegin)
    unfold Ns.usedCount
    rw [hused₄]
    rfl
  · have hsame₁ := h.sameBut_begin hroom hbegin
    have hsame₂ : SameBut k s₁ (s₁.fill p (Page.zero.write r.body)) := by
      refine fun k' hk' => ⟨rfl, fun i q hq => update_of_ne ?_ ..⟩
      rintro rfl
      have howner : s₁.owner (k, (s₁.keys k).inactive) = some q := by
        show ((s₁.keys k).slots (s₁.keys k).inactive).pageIdx = some q
        exact congrArg Slot.pageIdx hspare₂.1
      exact hk' (congrArg Prod.fst (hsound₁.paged.distinct (k', i) _ q hq howner))
    have hsame₃ : SameBut k (s₁.fill p (Page.zero.write r.body))
        { s₁.fill p (Page.zero.write r.body) with
          keys := update s₁.keys k ((s₁.keys k).committed r.length) } :=
      sameBut_keys (b := (s₁.keys k).committed r.length) rfl rfl
    have hsame := hsame₁.trans (hsame₂.trans (hsame₃.trans hsame₄))
    intro k' y hy
    dsimp only at hy ⊢
    by_cases hkk : k' = k
    · subst hkk
      rw [update_self, List.getElem?_cons_succ, ← List.head?_eq_getElem?] at hy
      have hold := htracks₂.committed_old r.length hy
      have hkeys : update s₁.keys k' ((s₁.keys k').committed r.length) k' =
          (s₁.keys k').committed r.length := update_self ..
      rw [hinactive₄, hslot₄, harena₄, hkeys]
      exact hold
    · rw [update_of_ne (Fin.val_ne_of_ne hkk)] at hy
      obtain ⟨hkeys, harena⟩ := hsame k' hkk
      rw [hkeys]
      exact (hkept k' y hy).congr fun q hq => harena _ q hq

/-! ### All records -/

/-- The images that records of an image become, by key, the last one first. -/
def imagesOf (rs : List Record) (keyId : ℕ) : List Image :=
  ((rs.filter fun r => r.kid.toNat = keyId).map Record.image).reverse

theorem imagesOf_cons (r : Record) (rs : List Record) (keyId : ℕ) (hist : List Image) :
    imagesOf (r :: rs) keyId ++ hist =
      imagesOf rs keyId ++ if r.kid.toNat = keyId then r.image :: hist else hist := by
  unfold imagesOf
  by_cases hk : r.kid.toNat = keyId
  · rw [List.filter_cons_of_pos (by simpa using hk), if_pos hk, List.map_cons, List.reverse_cons,
      List.append_assoc]
    rfl
  · rw [List.filter_cons_of_neg (by simpa using hk), if_neg hk]

theorem Sound.reclassified (h : Sound w) (c : CuClass) :
    Sound ⟨{ w.ns with cuClass := c }, w.writing, w.history⟩ :=
  ⟨h.unfenced, h.paged, h.tracks, h.outside⟩

/-- Writing all records succeeds; with pages to spare for them, nothing is lost. -/
theorem loadFrom_records {rs : List Record} (h : Sound w) (hidle : Idle w)
    (hok : ∀ r ∈ rs, r.kid.toNat < n ∧ r.length.toNat = r.body.length ∧
      r.length.toNat ≤ pageBytes) :
    ∃ s, loadFrom rs.length w.ns (rs.flatMap Record.encode) = (true, s) ∧
      Sound ⟨s, w.writing, fun keyId => imagesOf rs keyId ++ w.history keyId⟩ ∧
      (Kept w → w.ns.usedCount + rs.length ≤ n + 1 →
        Kept ⟨s, w.writing, fun keyId => imagesOf rs keyId ++ w.history keyId⟩) := by
  induction rs generalizing w with
  | nil => exact ⟨_, rfl, h.reclassified _, fun hkept _ => hkept⟩
  | cons r rs ih =>
    obtain ⟨hk, hbody, hle⟩ := hok r List.mem_cons_self
    obtain ⟨s, hs, hloaded⟩ := h.load hidle (k := ⟨r.kid.toNat, hk⟩) rfl hle
    obtain ⟨s', hs', hsound, hkept⟩ := ih hloaded.sound hidle fun r' hr' =>
      hok r' (List.mem_cons_of_mem _ hr')
    have hhist : (fun keyId => imagesOf (r :: rs) keyId ++ w.history keyId) =
        fun keyId => imagesOf rs keyId ++
          update w.history r.kid.toNat (r.image :: w.history r.kid.toNat) keyId := by
      funext keyId
      rw [imagesOf_cons]
      by_cases hkey : r.kid.toNat = keyId
      · subst hkey
        rw [if_pos rfl, update_self]
      · rw [if_neg hkey, update_of_ne (Ne.symm hkey)]
    rw [hhist]
    refine ⟨s', ?_, hsound, fun hkept₀ hroom => ?_⟩
    · rw [List.flatMap_cons, List.length_cons, loadFrom, readRecord_encode hbody]
      dsimp only
      rw [hs]
      exact hs'
    · rw [List.length_cons] at hroom
      have hused := hloaded.used
      refine hkept (hloaded.kept hkept₀ (exists_unused (by omega))) ?_
      show s.usedCount + rs.length ≤ n + 1
      omega

end Loads

/-! ### The records of a namespace -/

/-- The record of an image. -/
def Image.record (k : Fin n) (x : Image) : Record := ⟨UInt8.ofNat k, x.generation, x.length, x.bytes⟩

section Exports

variable {w : World n} {k : Fin n}

theorem stored_of_holds {arena : Fin (n + 1) → Page} {x : Slot n} {im : Image}
    (h : x.Holds arena im) : x.stored = true := by
  obtain ⟨p, hp, -⟩ := h.page
  unfold Slot.stored
  rw [h.present, hp]
  rfl

theorem not_stored {x : Slot n} (h : x.present = false) : x.stored = false := by
  unfold Slot.stored
  rw [h, Bool.false_and]

section Order

variable {b : DualMeta n} {a : Bool}

theorem exportOrder_none (h : ∀ i, (b.slots i).stored = false) : b.exportOrder = [] := by
  simp [DualMeta.exportOrder, h]

theorem exportOrder_one (h : (b.slots a).stored = true) (h' : (b.slots !a).stored = false) :
    b.exportOrder = [a] := by
  cases a <;> simp_all [DualMeta.exportOrder]

theorem exportOrder_two (h : (b.slots a).stored = true) (h' : (b.slots !a).stored = true)
    (hlt : (b.slots !a).generation < (b.slots a).generation) : b.exportOrder = [!a, a] := by
  have hasymm := UInt64.lt_asymm hlt
  cases a <;> simp_all [DualMeta.exportOrder]

end Order

/-- The records of a key: its older image, if it still has it, and its active one. -/
theorem Sound.exportRecords (h : Sound w) (k : Fin n)
    (hord : ∀ x y, (w.history k)[0]? = some x → (w.history k)[1]? = some y →
      (∃ i, ((w.ns.keys k).slots i).Holds w.ns.arena y) → y.generation < x.generation) :
    w.ns.exportRecords k =
      ((w.ns.readRetainedOld k).toList ++ (w.ns.readActive k).toList).map (Image.record k) := by
  unfold Ns.exportRecords Ns.readRetainedOld Ns.readActive DualMeta.older
  rw [dif_pos k.isLt, dif_pos k.isLt]
  dsimp only [Fin.eta]
  obtain ⟨hnone, -, hp⟩ | ⟨a, x, ha, hx, hnew, hold | ⟨y, hy, hold⟩⟩ := h.slots k
  · rw [hnone, exportOrder_none fun i => not_stored (hp i)]
    rfl
  · have hboth := DualMeta.both_present hnew.present hold
    rw [ha, exportOrder_one (stored_of_holds hnew) (not_stored hold), Option.bind_some, hboth,
      Option.bind_some, if_pos hnew.present, image_of_holds hnew]
    simp [image_of_holds hnew, Image.record]
  · have hboth := DualMeta.both_present hnew.present hold.present
    have hlt : ((w.ns.keys k).slots !a).generation < ((w.ns.keys k).slots a).generation := by
      rw [hnew.generation, hold.generation]
      exact hord x y hx hy ⟨_, hold⟩
    rw [ha, exportOrder_two (stored_of_holds hnew) (stored_of_holds hold) hlt, Option.bind_some,
      if_pos hboth, Option.bind_some, Option.bind_some, Bool.not_not, if_pos hlt,
      if_pos hnew.present, image_of_holds hnew, image_of_holds hold]
    simp [image_of_holds hnew, image_of_holds hold, Image.record]

end Exports

end Ninlil.RouteRelay
