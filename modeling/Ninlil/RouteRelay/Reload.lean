import Ninlil.Lib.Groups
import Ninlil.RouteRelay.Loading

/-!
# The dual-page store: what survives a restart

* `records_length_le`: a namespace never has more records than pages;
* `import_export`: a namespace survives its export and import.
-/

namespace Ninlil.RouteRelay

open Bytes Groups

variable {n : ℕ}

/-! ### How many records there are -/

section Lengths

variable {w : World n}

theorem exportOrder_nodup (b : DualMeta n) : b.exportOrder.Nodup ∧
    ∀ i ∈ b.exportOrder, (b.slots i).stored = true := by
  have hfilter : ([false, true].filter fun i => (b.slots i).stored).Nodup :=
    List.Nodup.filter _ (by decide)
  unfold DualMeta.exportOrder
  dsimp only
  split
  next h =>
    refine ⟨by decide, fun i hi => ?_⟩
    have hmem : i ∈ [false, true].filter fun i => (b.slots i).stored := by
      rw [h.1]
      revert hi
      cases i <;> decide
    exact (List.mem_filter.1 hmem).2
  next => exact ⟨hfilter, fun i hi => (List.mem_filter.1 hi).2⟩

/-- A namespace never has more records than pages. -/
theorem Sound.records_length_le (h : Sound w) : w.ns.records.length ≤ n + 1 := by
  have hslots : ((List.finRange n).flatMap fun k => (w.ns.keys k).exportOrder.map fun i =>
      (k, i)).length ≤ n + 1 := by
    refine length_le_of_injective ?_ w.ns.owner ?_ h.paged.distinct
    · rw [List.nodup_flatMap]
      refine ⟨fun k _ => (exportOrder_nodup _).1.map fun i j hij => congrArg Prod.snd hij, ?_⟩
      refine (List.nodup_finRange n).pairwise_of_forall_ne fun k _ k' _ hne => ?_
      intro x hx hx'
      obtain ⟨i, -, rfl⟩ := List.mem_map.1 hx
      obtain ⟨j, -, heq⟩ := List.mem_map.1 hx'
      exact hne (congrArg Prod.fst heq).symm
    · intro x hx
      obtain ⟨k, -, hx⟩ := List.mem_flatMap.1 hx
      obtain ⟨i, hi, rfl⟩ := List.mem_map.1 hx
      exact (Bool.and_eq_true_iff.1 ((exportOrder_nodup _).2 i hi)).2
  refine le_trans ?_ hslots
  unfold Ns.records
  rw [List.length_flatMap, List.length_flatMap]
  refine List.sum_le_sum fun k _ => ?_
  rw [List.length_map]
  exact List.length_filterMap_le _ _

end Lengths

/-! ### Records by key -/

section Grouped

variable {cls : UInt8 → UInt64 → List UInt8 → CuClass} {rs : List Record} {k : Fin n}

instance : Trans Before Before Before where
  trans := by
    rintro a b c (hab | ⟨hab, hgen⟩) (hbc | ⟨hbc, hgen'⟩)
    · exact .inl (UInt8.lt_trans hab hbc)
    · exact .inl (hbc ▸ hab)
    · exact .inl (hab ▸ hbc)
    · exact .inr ⟨hab.trans hbc, UInt64.lt_trans hgen hgen'⟩

theorem Admissible.pairwise (h : Admissible cls n none (fun _ => 0) rs) :
    rs.Pairwise fun r r' => Before r.place r'.place :=
  List.pairwise_map.1 (List.isChain_iff_pairwise.1 h.chain)

/-- An image is the records of its keys, in order. -/
theorem Admissible.flatMap_filter (h : Admissible cls n none (fun _ => 0) rs) :
    ((List.finRange n).flatMap fun k : Fin n => rs.filter fun r => r.kid.toNat = k.val) = rs := by
  refine flatMap_filter_of_sorted (h.pairwise.imp fun hbefore => ?_) fun r hr => (h.ok r hr).key
  obtain hlt | ⟨heq, -⟩ := hbefore
  · exact Nat.le_of_lt (UInt8.lt_iff_toNat_lt.1 hlt)
  · exact Nat.le_of_eq (congrArg UInt8.toNat heq)

/-- The records of a key: none, one, or two by generation. -/
theorem Admissible.records (h : Admissible cls n none (fun _ => 0) rs) (k : ℕ) :
    (rs.filter fun r => r.kid.toNat = k) = [] ∨
    (∃ r, (rs.filter fun r => r.kid.toNat = k) = [r]) ∨
    ∃ r r', (rs.filter fun r => r.kid.toNat = k) = [r, r'] ∧ r.generation < r'.generation := by
  have hmem : ∀ r ∈ rs.filter fun r => r.kid.toNat = k, r ∈ rs ∧ r.kid.toNat = k := fun r hr => by
    simpa using List.mem_filter.1 hr
  have hpair := h.pairwise.sublist
    (List.filter_sublist (p := fun r : Record => decide (r.kid.toNat = k)))
  have hlen : (rs.filter fun r => r.kid.toNat = k).length ≤ 2 := by
    rcases hf : rs.filter fun r => r.kid.toNat = k with - | ⟨r, l⟩
    · rw [hf]
      exact Nat.zero_le 2
    · obtain ⟨hr, hk⟩ := hmem r (by rw [hf]; exact List.mem_cons_self)
      have hfew := h.few r hr
      rw [Nat.zero_add, List.countP_eq_length_filter] at hfew
      have hsame : (rs.filter fun q => decide (q.kid = r.kid)) =
          rs.filter fun q => decide (q.kid.toNat = k) := by
        refine List.filter_congr fun q _ => decide_eq_decide.2 ?_
        rw [← hk]
        exact UInt8.toNat_inj.symm
      rwa [hsame] at hfew
  rcases hf : rs.filter fun r => r.kid.toNat = k with - | ⟨r, - | ⟨r', - | ⟨r'', l⟩⟩⟩
  · exact .inl hf
  · exact .inr (.inl ⟨r, hf⟩)
  · refine .inr (.inr ⟨r, r', hf, ?_⟩)
    rw [hf] at hpair hmem
    obtain hlt | ⟨-, hlt⟩ := List.rel_of_pairwise_cons hpair List.mem_cons_self
    · have hr := (hmem r List.mem_cons_self).2
      have hr' := (hmem r' (List.mem_cons_of_mem _ List.mem_cons_self)).2
      have hlt' := UInt8.lt_iff_toNat_lt.1 hlt
      exact absurd hlt' (by show ¬r.kid.toNat < r'.kid.toNat; omega)
    · exact hlt
  · rw [hf] at hlen
    simp at hlen

/-- A record is that of the image it becomes. -/
theorem record_image {r : Record} (hk : r.kid.toNat = k) (hlen : r.length.toNat = r.body.length)
    (hle : r.length.toNat ≤ pageBytes) : r.image.record k = r := by
  have hbytes : r.image.bytes = r.body := by
    show ((r.body ++ Page.zero.bytes.drop r.body.length).take pageBytes).take r.length.toNat = r.body
    rw [List.take_take, Nat.min_eq_left hle, hlen, List.take_left]
  have hkid : UInt8.ofNat k = r.kid := by rw [← hk, UInt8.ofNat_toNat]
  unfold Image.record
  rw [hbytes, hkid]
  rfl

end Grouped

/-! ### Loading an image -/

section Loads

variable {w : World n} {cls : UInt8 → UInt64 → List UInt8 → CuClass} {rs : List Record}

/-- What an import of admissible records does. -/
structure Imported (rs : List Record) (s : Ns n) : Prop where
  sound : Sound ⟨s, fun _ => .idle, imagesOf rs⟩
  kept : rs.length ≤ n + 1 → Kept ⟨s, fun _ => .idle, imagesOf rs⟩

theorem kept_init : Kept (.init : World n) := fun _ _ hy => by cases hy

theorem usedCount_init : (Ns.init : Ns n).usedCount = 0 := by
  unfold Ns.usedCount
  rw [Finset.card_eq_zero, Finset.filter_eq_empty_iff]
  exact fun _ _ h => by cases h

theorem nsImport_eq {magic bytes : List UInt8} (hmagic : magic.length = 4) (hn : 2 * n < 256)
    (hcls : ∀ kid gen body, cls kid gen body = .none → body.length ≤ pageBytes) {t : Ns n}
    (ht : t.fenced = false) (hrs : bytes = encodeImage magic rs) (hle : rs.length ≤ 2 * n)
    (hadm : Admissible cls n none (fun _ => 0) rs) :
    ∃ s, nsImport magic cls t bytes = (true, s) ∧ Imported rs s := by
  obtain ⟨s, hs, hsound, hkept⟩ := @loadFrom_records n .init rs sound_init
    (fun _ => rfl) fun r hr => by
      have hok := hadm.ok r hr
      refine ⟨hok.key, hok.length, ?_⟩
      rw [hok.length]
      exact hcls _ _ _ hok.cls
  have hnil : (fun keyId => imagesOf rs keyId ++ (World.init : World n).history keyId) =
      imagesOf rs := by
    funext keyId
    exact List.append_nil _
  rw [hnil] at hsound hkept
  refine ⟨s, ?_, hsound, fun hroom => hkept kept_init ?_⟩
  · have hpre := (@preflight_eq_none_iff _ cls _ bytes hmagic hn).2
      ⟨rs, hrs, hle, hadm⟩
    unfold nsImport
    rw [if_neg (by rw [ht]; exact Bool.false_ne_true), if_neg (not_not.2 hpre), hrs,
      getD_encodeImage hmagic, drop_encodeImage hmagic, toNat_count (by omega)]
    exact hs
  · show (Ns.init : Ns n).usedCount + rs.length ≤ n + 1
    rw [usedCount_init]
    omega

/-- The images of a key after an import. -/
theorem imagesOf_ordered (hadm : Admissible cls n none (fun _ => 0) rs) (k : ℕ) :
    ∀ x y, (imagesOf rs k)[0]? = some x → (imagesOf rs k)[1]? = some y →
      y.generation < x.generation := by
  intro x y hx hy
  unfold imagesOf at hx hy
  obtain hnil | ⟨r, hone⟩ | ⟨r, r', htwo, hlt⟩ := hadm.records k
  · rw [hnil] at hx
    cases hx
  · rw [hone] at hy
    cases hy
  · rw [htwo] at hx hy
    cases hx
    cases hy
    exact hlt

/-- Where no older image was given back, the records of a key are those imported. -/
theorem Imported.exportRecords {s : Ns n} (h : Imported rs s)
    (hadm : Admissible cls n none (fun _ => 0) rs)
    (hcls : ∀ kid gen body, cls kid gen body = .none → body.length ≤ pageBytes)
    (hroom : rs.length ≤ n + 1) (k : Fin n) :
    s.exportRecords k = rs.filter fun r => r.kid.toNat = k.val := by
  have hord := imagesOf_ordered hadm k
  have hold := h.sound.readRetainedOld_held (h.kept hroom k) hord
  have hactive := h.sound.readActive k
  have hrecord : ∀ r ∈ rs.filter fun r => r.kid.toNat = k.val, r.image.record k = r := by
    intro r hr
    have hok := hadm.ok r (List.mem_filter.1 hr).1
    refine record_image (by simpa using (List.mem_filter.1 hr).2) hok.length ?_
    rw [hok.length]
    exact hcls _ _ _ hok.cls
  rw [h.sound.exportRecords k fun x y hx hy _ => hord x y hx hy]
  dsimp only at hold hactive ⊢
  rw [hold, hactive]
  unfold imagesOf
  obtain hnil | ⟨r, hone⟩ | ⟨r, r', htwo, -⟩ := hadm.records k
  · rw [hnil]
    rfl
  · rw [hone] at hrecord ⊢
    show [r.image.record k] = [r]
    rw [hrecord r List.mem_cons_self]
  · rw [htwo] at hrecord ⊢
    show [r.image.record k, r'.image.record k] = [r, r']
    rw [hrecord r List.mem_cons_self, hrecord r' (List.mem_cons_of_mem _ List.mem_cons_self)]

/-- An image with no more records than pages is loaded in full. -/
theorem Imported.records {s : Ns n} (h : Imported rs s)
    (hadm : Admissible cls n none (fun _ => 0) rs)
    (hcls : ∀ kid gen body, cls kid gen body = .none → body.length ≤ pageBytes)
    (hroom : rs.length ≤ n + 1) : s.records = rs := by
  unfold Ns.records
  rw [List.flatMap_congr fun k _ => h.exportRecords hadm hcls hroom k]
  exact hadm.flatMap_filter

/-- An import loads all of an image, or fails and leaves a fenced namespace without any key. -/
def AllOrNothing (magic : List UInt8) (cls : UInt8 → UInt64 → List UInt8 → CuClass) (t : Ns n)
    (bytes : List UInt8) : Prop :=
  ((nsImport magic cls t bytes).1 = false ∧ (nsImport magic cls t bytes).2.fenced = true ∧
    (nsImport magic cls t bytes).2.corrupt = true ∧
    ∀ k i, (((nsImport magic cls t bytes).2.keys k).slots i).present = false) ∨
  ((nsImport magic cls t bytes).1 = true ∧ nsExport magic (nsImport magic cls t bytes).2 = bytes)

theorem allOrNothing_iff {magic bytes : List UInt8} (hmagic : magic.length = 4) (hn : 2 * n < 256)
    (hcls : ∀ kid gen body, cls kid gen body = .none → body.length ≤ pageBytes) {t : Ns n}
    (ht : t.fenced = false) : AllOrNothing magic cls t bytes ↔
      (preflight magic cls n bytes = .none → (bytes.getD 4 0).toNat ≤ n + 1) := by
  by_cases hpre : preflight magic cls n bytes = .none
  · obtain ⟨rs, hrs, hle, hadm⟩ := (preflight_eq_none_iff hmagic hn).1 hpre
    obtain ⟨s, hs, himported⟩ := nsImport_eq hmagic hn hcls ht hrs hle hadm
    have hcount : (bytes.getD 4 0).toNat = rs.length := by
      rw [hrs, getD_encodeImage hmagic, toNat_count (by omega)]
    unfold AllOrNothing
    rw [hs, hcount]
    constructor
    · rintro (⟨hf, -⟩ | ⟨-, hexport⟩) -
      · cases hf
      · have hsame : (nsExport magic s).getD 4 0 = bytes.getD 4 0 := congrArg (·.getD 4 0) hexport
        have hbound := himported.sound.records_length_le
        dsimp only at hbound
        have hlen : (bytes.getD 4 0).toNat = s.records.length := by
          rw [← hsame]
          unfold nsExport
          rw [getD_encodeImage hmagic, toNat_count (by omega)]
        omega
    · intro hroom
      refine .inr ⟨rfl, ?_⟩
      show encodeImage magic s.records = bytes
      rw [himported.records hadm hcls (hroom hpre), hrs]
  · refine ⟨fun _ h => absurd h hpre, fun _ => .inl ?_⟩
    unfold nsImport
    rw [if_neg (by rw [ht]; exact Bool.false_ne_true), if_pos hpre]
    exact ⟨rfl, rfl, rfl, fun _ _ => rfl⟩

end Loads

/-! ### A restart -/

/-- What a reader sees of an image. -/
def Image.view (x : Image) : List UInt8 × UInt32 × UInt64 := (x.bytes, x.length, x.generation)

section Restarts

variable {w : World n} {cls : UInt8 → UInt64 → List UInt8 → CuClass}

/-- No image is longer than a page. -/
theorem Reachable.length_le (h : Reachable w) (keyId : ℕ) :
    ∀ x ∈ w.history keyId, x.length.toNat ≤ pageBytes := by
  induction h with
  | init => exact fun x hx => absurd hx List.not_mem_nil
  | step hw hstep ih =>
    cases hstep with
    | commit h hs =>
      rename_i w keyId' p gen page length s
      intro x hx
      have hx' : x ∈ Function.update w.history keyId' (⟨page, length, gen⟩ :: w.history keyId')
        keyId := hx
      by_cases hk : keyId = keyId'
      · subst hk
        rw [Function.update_self] at hx'
        rcases List.mem_cons.1 hx' with rfl | hx'
        · unfold Ns.commit at hs
          split at hs
          next hcond => exact hcond.2.2
          next => cases hs
        · exact ih x hx'
      · rw [Function.update_of_ne hk] at hx'
        exact ih x hx'
    | begin | refused | fill | uncommitted | abandon => exact ih

theorem length_bytes {x : Image} (h : x.length.toNat ≤ pageBytes) :
    x.bytes.length = x.length.toNat := by
  unfold Image.bytes
  rw [List.length_take, x.page.size]
  exact Nat.min_eq_left h

/-- A slot that holds an image holds one that is no longer than a page. -/
theorem Reachable.of_stored (h : Reachable w) {k : Fin n} {i : Bool}
    (hi : ((w.ns.keys k).slots i).stored = true) :
    ∃ x, ((w.ns.keys k).slots i).Holds w.ns.arena x ∧ x.length.toNat ≤ pageBytes := by
  have hpresent := (Bool.and_eq_true_iff.1 hi).1
  obtain ⟨-, -, hp⟩ | ⟨a, y, -, hy, hnew, hold⟩ := h.sound.slots k
  · rw [hp i] at hpresent
    cases hpresent
  · by_cases hia : i = a
    · subst hia
      exact ⟨y, hnew, h.length_le k y (List.mem_of_getElem? hy)⟩
    · have hother : i = !a := Bool.eq_not_of_ne hia
      subst hother
      obtain hp | ⟨z, hz, hold⟩ := hold
      · rw [hp] at hpresent
        cases hpresent
      · exact ⟨z, hold, h.length_le k z (List.mem_of_getElem? hz)⟩

/-- A record of a key is that of an image in one of its slots. -/
theorem Reachable.of_exportRecords (h : Reachable w) {k : Fin n} {r : Record}
    (hr : r ∈ w.ns.exportRecords k) : ∃ i x, ((w.ns.keys k).slots i).Holds w.ns.arena x ∧
      x.length.toNat ≤ pageBytes ∧ r = x.record k := by
  obtain ⟨i, hi, hr⟩ := List.mem_filterMap.1 hr
  obtain ⟨x, hx, rfl⟩ := Option.map_eq_some_iff.1 hr
  obtain ⟨y, hholds, hle⟩ := h.of_stored ((exportOrder_nodup _).2 i hi)
  rw [image_of_holds hholds] at hx
  cases hx
  exact ⟨i, x, hholds, hle, rfl⟩

/-- The size of the records of a key. -/
theorem Reachable.exportBytes (h : Reachable w) (k : Fin n) :
    ((w.ns.exportRecords k).map fun r => r.encode.length).sum = (w.ns.keys k).exportBytes := by
  have hsum : ∀ l : List Bool, (∀ i ∈ l, ((w.ns.keys k).slots i).stored = true) →
      ((l.filterMap fun i => (w.ns.image ((w.ns.keys k).slots i)).map (Image.record k)).map
        fun r => r.encode.length).sum =
      (l.map fun i => 13 + ((w.ns.keys k).slots i).length.toNat).sum := by
    intro l hl
    induction l with
    | nil => rfl
    | cons i l ih =>
      obtain ⟨x, hholds, hle⟩ := h.of_stored (hl i List.mem_cons_self)
      have himage : (w.ns.image ((w.ns.keys k).slots i)).map (Image.record k) =
          some (x.record k) := by
        rw [image_of_holds hholds]
        rfl
      have hlen : (x.record k).encode.length = 13 + ((w.ns.keys k).slots i).length.toNat := by
        rw [Record.length_encode, hholds.length]
        exact congrArg (13 + ·) (length_bytes hle)
      have htail := ih fun j hj => hl j (List.mem_cons_of_mem _ hj)
      simp only [List.filterMap_cons, himage, List.map_cons, List.sum_cons, hlen, htail]
  refine (hsum _ (exportOrder_nodup _).2).trans ?_
  unfold DualMeta.exportOrder DualMeta.exportBytes
  dsimp only
  split
  next hboth =>
    rw [hboth.1]
    simp only [List.map_cons, List.map_nil, List.sum_cons, List.sum_nil]
    omega
  next => rfl

/-- The image of a namespace has the size announced. -/
theorem Reachable.length_nsExport (h : Reachable w) {magic : List UInt8} (hmagic : magic.length = 4) :
    (nsExport magic w.ns).length = w.ns.exportSize := by
  have hrecords : (w.ns.records.flatMap Record.encode).length =
      ((List.finRange n).map fun k => (w.ns.keys k).exportBytes).sum := by
    unfold Ns.records
    rw [List.flatMap_assoc, List.length_flatMap]
    congr 1
    refine List.map_congr_left fun k _ => ?_
    rw [List.length_flatMap]
    exact h.exportBytes k
  unfold nsExport encodeImage Ns.exportSize
  rw [List.length_append, List.length_append, hmagic, hrecords, ← Nat.add_assoc]
  rfl

/-- Each image present passes its check. -/
def PresentOk (cls : UInt8 → UInt64 → List UInt8 → CuClass) (s : Ns n) : Prop :=
  ∀ k i x, ((s.keys k).slots i).present = true → s.image ((s.keys k).slots i) = some x →
    cls (UInt8.ofNat k) x.generation x.bytes = .none

/-- The older image that a key still has is of an earlier generation. -/
theorem Reachable.ordered (h : Reachable w) (hok : PresentOk cls w.ns)
    (hmax : ∀ kid gen body, cls kid gen body = .none → gen.toNat < 2 ^ 64 - 1) (k : Fin n) :
    ∀ x y, (w.history k)[0]? = some x → (w.history k)[1]? = some y →
      (∃ i, ((w.ns.keys k).slots i).Holds w.ns.arena y) → y.generation < x.generation := by
  rintro x y hx hy ⟨i, hholds⟩
  have hlt := hmax _ _ _ (hok k i y hholds.present (image_of_holds hholds))
  rw [(h.chained k).next 0 x y hx hy, UInt64.lt_iff_toNat_lt, toNat_succGeneration hlt]
  exact Nat.lt_succ_self _

/-- What a namespace exports is admissible. -/
theorem Reachable.admissible (h : Reachable w) (hok : PresentOk cls w.ns)
    (hmax : ∀ kid gen body, cls kid gen body = .none → gen.toNat < 2 ^ 64 - 1) (hn : n < 256) :
    Admissible cls n none (fun _ => 0) w.ns.records ∧
      ∀ k : Fin n, (w.ns.records.filter fun r => r.kid.toNat = k.val) = w.ns.exportRecords k := by
  have hkid : ∀ k : Fin n, (UInt8.ofNat k).toNat = k := fun k => by
    rw [UInt8.toNat_ofNat']
    exact Nat.mod_eq_of_lt (Nat.lt_trans k.isLt hn)
  have hkey : ∀ k : Fin n, ∀ r ∈ w.ns.exportRecords k, r.kid.toNat = k := by
    intro k r hr
    obtain ⟨i, x, -, -, rfl⟩ := h.of_exportRecords hr
    exact hkid k
  have hgroup := fun k => filter_flatMap_finRange hkey k
  have hrecords : ∀ k, (w.ns.exportRecords k).length ≤ 2 ∧
      (w.ns.exportRecords k).Pairwise fun r r' => r.generation < r'.generation := by
    intro k
    rw [h.sound.exportRecords k (h.ordered hok hmax k)]
    have hactive := h.sound.readActive k
    rcases hold : w.ns.readRetainedOld k with - | y
    · rcases w.ns.readActive k with - | x
      · exact ⟨Nat.zero_le 2, List.Pairwise.nil⟩
      · exact ⟨Nat.le_succ 1, List.pairwise_singleton _ _⟩
    · rcases hnew : w.ns.readActive k with - | x
      · exact ⟨Nat.le_succ 1, List.pairwise_singleton _ _⟩
      · refine ⟨Nat.le_refl 2, List.pairwise_pair.2 ?_⟩
        rw [hnew, List.head?_eq_getElem?] at hactive
        obtain ⟨_, hhist, hholds⟩ := h.sound.retained hold
        exact h.ordered hok hmax k x y hactive.symm hhist hholds
  refine ⟨⟨fun r hr => ?_, ?_, fun r hr => ?_⟩, hgroup⟩
  · obtain ⟨k, -, hr⟩ := List.mem_flatMap.1 hr
    obtain ⟨i, x, hholds, hle, rfl⟩ := h.of_exportRecords hr
    refine ⟨?_, (length_bytes hle).symm, hok k i x hholds.present (image_of_holds hholds)⟩
    show (UInt8.ofNat k).toNat < n
    rw [hkid]
    exact k.isLt
  · refine (List.isChain_iff_pairwise (R := Before)).2 (List.pairwise_map.2 ?_)
    refine List.pairwise_flatMap.2 ⟨fun k _ => ?_, ?_⟩
    · refine (hrecords k).2.imp_of_mem fun {r r'} hr hr' hlt => .inr ⟨?_, hlt⟩
      exact UInt8.toNat_inj.1 ((hkey k r hr).trans (hkey k r' hr').symm)
    · refine (List.pairwise_lt_finRange n).imp fun {k k'} hlt r hr r' hr' => .inl ?_
      rw [UInt8.lt_iff_toNat_lt]
      show r.kid.toNat < r'.kid.toNat
      rw [hkey k r hr, hkey k' r' hr']
      exact hlt
  · obtain ⟨k, -, hr⟩ := List.mem_flatMap.1 hr
    have hk := hkey k r hr
    rw [Nat.zero_add, List.countP_eq_length_filter]
    have hsame : (w.ns.records.filter fun q => decide (q.kid = r.kid)) =
        w.ns.records.filter fun q => decide (q.kid.toNat = k.val) := by
      refine List.filter_congr fun q _ => decide_eq_decide.2 ?_
      rw [← hk]
      exact UInt8.toNat_inj.symm
    rw [hsame]
    show (((List.finRange n).flatMap w.ns.exportRecords).filter _).length ≤ 2
    rw [hgroup k]
    exact (hrecords k).1

/-- A reader that gets an older image gets an active one. -/
theorem Sound.active_of_retained (h : Sound w) {keyId : ℕ} {y : Image}
    (hold : w.ns.readRetainedOld keyId = some y) : ∃ x, w.ns.readActive keyId = some x := by
  have hhist := h.readRetainedOld hold
  rw [h.readActive keyId]
  cases hh : w.history keyId with
  | nil =>
    rw [hh] at hhist
    cases hhist
  | cons x rest => exact ⟨x, rfl⟩

/-- Equal records of a key show the same images. -/
theorem views_of_records {k : Fin n} {old old' new new' : Option Image}
    (h : ∀ y, old = some y → ∃ x, new = some x) (h' : ∀ y, old' = some y → ∃ x, new' = some x)
    (heq : (old.toList ++ new.toList).map (Image.record k) =
      (old'.toList ++ new'.toList).map (Image.record k)) :
    new.map Image.view = new'.map Image.view ∧ old.map Image.view = old'.map Image.view := by
  have hview : ∀ x y : Image, x.record k = y.record k → x.view = y.view := by
    intro x y hxy
    unfold Image.record at hxy
    obtain ⟨-, hgen, hlen, hbytes⟩ := Record.mk.inj hxy
    unfold Image.view
    rw [hgen, hlen, hbytes]
  rcases old with - | y
  · rcases old' with - | y'
    · refine ⟨?_, rfl⟩
      rcases new with - | x <;> rcases new' with - | x'
      · rfl
      · cases heq
      · cases heq
      · exact congrArg some (hview x x' (List.cons.inj heq).1)
    · obtain ⟨x', rfl⟩ := h' y' rfl
      have hlen := congrArg List.length heq
      rcases new with - | x
      · cases hlen
      · cases hlen
  · obtain ⟨x, rfl⟩ := h y rfl
    rcases old' with - | y'
    · have hlen := congrArg List.length heq
      rcases new' with - | x'
      · cases hlen
      · cases hlen
    · obtain ⟨x', rfl⟩ := h' y' rfl
      obtain ⟨hy, htail⟩ := List.cons.inj heq
      exact ⟨congrArg some (hview x x' (List.cons.inj htail).1), congrArg some (hview y y' hy)⟩

/-- A namespace survives its export and import. -/
theorem Reachable.import_export (h : Reachable w) {magic : List UInt8} (hmagic : magic.length = 4)
    (hn : 1 ≤ n ∧ 2 * n < 256)
    (hcls : ∀ kid gen body, cls kid gen body = .none → body.length ≤ pageBytes)
    (hmax : ∀ kid gen body, cls kid gen body = .none → gen.toNat < 2 ^ 64 - 1)
    (hok : PresentOk cls w.ns) {t : Ns n} (ht : t.fenced = false) :
    ∃ s, nsImport magic cls t (nsExport magic w.ns) = (true, s) ∧
      ∀ keyId, (s.readActive keyId).map Image.view = (w.ns.readActive keyId).map Image.view ∧
        (s.readRetainedOld keyId).map Image.view =
          (w.ns.readRetainedOld keyId).map Image.view := by
  obtain ⟨hadm, hgroup⟩ := h.admissible hok hmax (by omega)
  have hlen := h.sound.records_length_le
  obtain ⟨s, hs, himported⟩ := nsImport_eq hmagic hn.2 hcls ht rfl (by omega) hadm
  refine ⟨s, hs, fun keyId => ?_⟩
  by_cases hlt : keyId < n
  · have hrecords := himported.exportRecords hadm hcls hlen ⟨keyId, hlt⟩
    have hsame := himported.sound.exportRecords ⟨keyId, hlt⟩
      fun x y hx hy _ => imagesOf_ordered hadm keyId x y hx hy
    rw [hgroup ⟨keyId, hlt⟩, h.sound.exportRecords ⟨keyId, hlt⟩ (h.ordered hok hmax _)] at hrecords
    refine views_of_records (k := ⟨keyId, hlt⟩) (fun y hy => ?_) (fun y hy => ?_)
      (hsame.symm.trans hrecords)
    · exact himported.sound.active_of_retained hy
    · exact h.sound.active_of_retained hy
  · unfold Ns.readActive Ns.readRetainedOld
    rw [dif_neg hlt, dif_neg hlt, dif_neg hlt, dif_neg hlt]
    exact ⟨rfl, rfl⟩

end Restarts

end Ninlil.RouteRelay
