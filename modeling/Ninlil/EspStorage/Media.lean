import Ninlil.EspStorage.Iterators
import Ninlil.Lib.AtomicStore

/-!
# Media that may fail, and the content of a namespace

* `DecodesAs`, `decodesAs_cut`: images that every namespace reads alike, such as one that was cut
  behind its payload;
* `SlotMedia`: what the calls of a medium do to its sectors and slots, whether they succeed or not;
* `SlotMedia.content`: the content of a namespace as the port would load it;
* `SlotMedia.writeSlot_content`: the media phases of a commit leave it or replace all of it.
-/

namespace Ninlil.EspStorage

open Bytes

variable {μ : Type} {port : Port μ}

/-! ### Images -/

/-- An image that no namespace accepts. -/
def Rejected (image : List UInt8) : Prop :=
  ∀ schema expected r, decodeSlot image schema expected ≠ .valid r

/-- Images that every namespace reads alike. -/
def DecodesAs (image image' : List UInt8) : Prop :=
  ∀ schema expected, decodeSlot image schema expected = decodeSlot image' schema expected

theorem DecodesAs.refl (image : List UInt8) : DecodesAs image image := fun _ _ => rfl

/-- An erased slot. -/
def erasedSlot : List UInt8 := List.replicate slotBytes 0xFF

theorem rejected_erasedSlot : Rejected erasedSlot := by
  intro schema expected r h
  rw [erasedSlot, decodeSlot_erased] at h
  cases h

/-- An image written to an erased slot up to its byte `n`. -/
def cutImage (image : List UInt8) (n : ℕ) : List UInt8 :=
  image.take n ++ List.replicate (slotBytes - n) 0xFF

/-- Where the payload that the header announces ends. -/
def payloadEnd (image : List UInt8) : ℕ :=
  min slotBytes (slotHeaderBytes + (readSlotHeader image).payloadLen)

section Cuts

variable {image image' : List UInt8} {n : ℕ}

theorem cutImage_whole (hlen : image.length = slotBytes) : cutImage image slotBytes = image := by
  rw [cutImage, Nat.sub_self, ← hlen, List.take_length]
  exact List.append_nil image

theorem length_cutImage (hlen : image.length = slotBytes) (hn : n ≤ slotBytes) :
    (cutImage image n).length = slotBytes := by
  rw [cutImage, List.length_append, List.length_take, List.length_replicate, hlen,
    Nat.min_eq_left hn, Nat.add_sub_cancel' hn]

/-- A decoder reads the header and the payload that it announces, and nothing behind them. -/
theorem decodesAs_of_prefix (hlen : image.length = slotBytes) (hlen' : image'.length = slotBytes)
    (htake : image'.take n = image.take n)
    (hn : slotHeaderBytes + (readSlotHeader image).payloadLen ≤ n) (hle : n < slotBytes) :
    DecodesAs image' image := by
  intro schema expected
  have hbytes := slotBytes_eq
  have hhead : slotHeaderBytes = 320 := rfl
  have hslice : ∀ o k, o + k ≤ n → slice image' o k = slice image o k := fun o k hk =>
    slice_congr htake hk
  have hread : readSlotHeader image' = readSlotHeader image := by
    simp only [readSlotHeader, loadU32, loadU64]
    iterate 10 rw [hslice _ _ (by omega)]
  have hmagic : ∀ x : List UInt8, x.length = slotBytes → slice x 292 4 = slice image 292 4 →
      ¬bytesAllErased (slice x 0 slotBytes) = true := by
    intro x hx heq herased
    rw [slice_self hx, bytesAllErased, List.all_eq_true] at herased
    have hfour : slice x 292 4 = List.replicate 4 0xFF := by
      refine List.eq_replicate_iff.2 ⟨length_slice_of_le (by omega), fun b hb => ?_⟩
      exact beq_iff_eq.1 (herased b (List.mem_of_mem_drop (List.mem_of_mem_take hb)))
    have hpay : (readSlotHeader image).payloadLen = 2 ^ 32 - 1 := by
      show (UInt32.ofNat (decodeLE (slice image 292 4))).toNat = _
      rw [← heq, hfour]
      rfl
    omega
  rw [decodeSlot, if_neg (not_lt.2 hlen'.ge), if_neg (hmagic image' hlen' (hslice _ _ (by omega))),
    decodeSlot, if_neg (not_lt.2 hlen.ge), if_neg (hmagic image hlen rfl), hread]
  dsimp only
  rw [hslice _ _ hn]
  have hok : SlotHeaderOk image' (readSlotHeader image) =
      SlotHeaderOk image (readSlotHeader image) := by
    unfold SlotHeaderOk
    rw [hslice 271 1 (by omega), hslice 296 4 (by omega), hslice 308 12 (by omega),
      hslice 0 304 (by omega)]
    by_cases hname : (readSlotHeader image).namespaceLength ≤ 255
    · rw [hslice (16 + _) _ (by omega)]
    · simp only [hname, false_and, and_false]
  by_cases hheader : SlotHeaderOk image (readSlotHeader image)
  · have hname := hheader.2.2.2.1
    have hpok : SlotPayloadOk image' (readSlotHeader image) schema expected =
        SlotPayloadOk image (readSlotHeader image) schema expected := by
      unfold SlotPayloadOk
      rw [hslice _ _ hn, hslice 16 _ (by omega)]
    simp only [hok, hpok]
  · simp only [hok, hheader, not_false_eq_true, if_true]

/-- **A write that was cut behind the payload is read like the whole image.** -/
theorem decodesAs_cut (hlen : image.length = slotBytes)
    (hn : payloadEnd image ≤ n) (hle : n ≤ slotBytes) : DecodesAs (cutImage image n) image := by
  rcases Nat.lt_or_eq_of_le hle with hlt | rfl
  · have hend : slotHeaderBytes + (readSlotHeader image).payloadLen ≤ n :=
      (min_le_iff.1 hn).resolve_left (Nat.not_le.2 hlt)
    refine decodesAs_of_prefix hlen (length_cutImage hlen hle) ?_ hend hlt
    rw [cutImage, List.take_left' (by rw [List.length_take, hlen, Nat.min_eq_left hle])]
  · rw [cutImage_whole hlen]
    exact DecodesAs.refl image

end Cuts

/-! ### Media -/

/-- Only the slot at `i`, `k` may differ. -/
def OnlyAt (slot slot' : Fin hardMaxNamespaces → Fin 2 → List UInt8) (i : Fin hardMaxNamespaces)
    (k : Fin 2) : Prop :=
  ∀ j e, (j, e) ≠ (i, k) → slot' j e = slot j e

/-- A medium with its sectors and slots, described by what a slot decodes to. An erase that does not
succeed leaves the slot to be read as before or rejected, and a write to an erased slot that does not
succeed leaves it to be read as the image or rejected. -/
structure SlotMedia (port : Port μ) where
  sector : μ → Fin 2 → List UInt8
  slot : μ → Fin hardMaxNamespaces → Fin 2 → List UInt8
  read {m : μ} {o n : ℕ} {r : Option (List UInt8) × μ} : port.media.read m o n = r →
    sector r.2 = sector m ∧ slot r.2 = slot m
  read_sector {m m' : μ} {k : Fin 2} {bytes : List UInt8} :
    port.media.read m (mediaDirectoryOffset k) dirBytes = (some bytes, m') → bytes = sector m k
  read_slot {m m' : μ} {i : Fin hardMaxNamespaces} {k : Fin 2} {bytes : List UInt8} :
    port.media.read m (mediaDataOffset i k) slotBytes = (some bytes, m') → bytes = slot m i k
  sync {m : μ} {r : MediaStatus × μ} : port.media.sync m = r →
    sector r.2 = sector m ∧ slot r.2 = slot m
  erase {m : μ} {i : Fin hardMaxNamespaces} {k : Fin 2} {r : MediaStatus × μ} :
    port.media.erase m (mediaDataOffset i k) slotBytes = r →
      sector r.2 = sector m ∧ OnlyAt (slot m) (slot r.2) i k ∧
        (slot r.2 i k = erasedSlot ∨
          r.1 ≠ .ok ∧ (DecodesAs (slot r.2 i k) (slot m i k) ∨ Rejected (slot r.2 i k)))
  write {m : μ} {i : Fin hardMaxNamespaces} {k : Fin 2} {image : List UInt8} {r : MediaStatus × μ} :
    slot m i k = erasedSlot → image.length = slotBytes →
    port.media.write m (mediaDataOffset i k) image = r →
      sector r.2 = sector m ∧ OnlyAt (slot m) (slot r.2) i k ∧
        (DecodesAs (slot r.2 i k) image ∨ r.1 ≠ .ok ∧ Rejected (slot r.2 i k))

theorem OnlyAt.trans {slot slot' slot'' : Fin hardMaxNamespaces → Fin 2 → List UInt8}
    {i : Fin hardMaxNamespaces} {k : Fin 2} (h : OnlyAt slot slot' i k)
    (h' : OnlyAt slot' slot'' i k) : OnlyAt slot slot'' i k :=
  fun j e hne => (h' j e hne).trans (h j e hne)

namespace SlotMedia

variable {M : SlotMedia port} {m m' m'' : μ} {i : Fin hardMaxNamespaces} {k : Fin 2}
  {d : Directory} {image : List UInt8} {view : View} {gen : UInt64}

/-- What the media phases of a commit leave in their slot. -/
theorem writeSlot_spec (hlen : image.length = slotBytes) {w : Option Status × μ}
    (h : writeSlot port m (mediaDataOffset i k) image = w) :
    M.sector w.2 = M.sector m ∧ OnlyAt (M.slot m) (M.slot w.2) i k ∧
      (DecodesAs (M.slot w.2 i k) image ∨ w.1 ≠ none ∧
        (DecodesAs (M.slot w.2 i k) (M.slot m i k) ∨ Rejected (M.slot w.2 i k))) ∧
      w.1 ≠ some .ok := by
  unfold writeSlot at h
  rcases hE : port.media.erase m (mediaDataOffset i k) slotBytes with ⟨_ | _ | _, m1⟩
  case ok =>
    obtain ⟨hsector, honly, hslot⟩ := M.erase hE
    have hempty := hslot.resolve_right fun hc => hc.1 rfl
    rcases hW : port.media.write m1 (mediaDataOffset i k) image with ⟨_ | _ | _, m2⟩
    case ok =>
      obtain ⟨hsector', honly', hslot'⟩ := M.write hempty hlen hW
      have himage := hslot'.resolve_right fun hc => hc.1 rfl
      have hsync := @M.sync m2 _ rfl
      have hall : ∀ {st}, (st, (port.media.sync m2).2) = w → st ≠ some .ok →
          M.sector w.2 = M.sector m ∧ OnlyAt (M.slot m) (M.slot w.2) i k ∧
            (DecodesAs (M.slot w.2 i k) image ∨ w.1 ≠ none ∧
              (DecodesAs (M.slot w.2 i k) (M.slot m i k) ∨ Rejected (M.slot w.2 i k))) ∧
            w.1 ≠ some .ok := by
        rintro st rfl hst
        refine ⟨(hsync.1.trans hsector').trans hsector, ?_, .inl ?_, hst⟩
        · exact hsync.2 ▸ honly.trans honly'
        · exact hsync.2 ▸ himage
      rcases hS : port.media.sync m2 with ⟨_ | _ | _, m3⟩ <;> simp only [hE, hW, hS] at h hall <;>
        exact hall h nofun
    all_goals
      simp only [hE, hW] at h
      subst h
      obtain ⟨hsector', honly', hslot'⟩ := M.write hempty hlen hW
      exact ⟨hsector'.trans hsector, honly.trans honly',
        hslot'.imp_right fun hc => ⟨nofun, .inr hc.2⟩, nofun⟩
  all_goals
    simp only [hE] at h
    subst h
    obtain ⟨hsector, honly, hslot⟩ := M.erase hE
    exact ⟨hsector, honly, .inr ⟨nofun, hslot.elim (fun he => .inr (he ▸ rejected_erasedSlot))
      fun hc => hc.2⟩, nofun⟩

/-! ### Content -/

/-- Two states of a medium with the same bytes. -/
def Same (M : SlotMedia port) (m m' : μ) : Prop := M.sector m' = M.sector m ∧ M.slot m' = M.slot m

theorem Same.refl (m : μ) : M.Same m m := ⟨rfl, rfl⟩

theorem Same.trans (h : M.Same m m') (h' : M.Same m' m'') : M.Same m m'' :=
  ⟨h'.1.trans h.1, h'.2.trans h.2⟩

/-- A slot image as `load_namespace_content` reads it. -/
def decoded (entry : DirectoryEntry) (image : List UInt8) : Decoded (UInt64 × View) :=
  atLeastSeed entry.dataSeedGeneration (decodeSlot image entry.schema (some entry.name))

variable (M)

/-- The content of a namespace, its generation and its slot. -/
def content (d : Directory) (m : μ) (i : Fin hardMaxNamespaces) : Option (View × UInt64 × Fin 2) :=
  selectContent (decoded (d.entries i) (M.slot m i 0)) (decoded (d.entries i) (M.slot m i 1))

/-- The directory that would be loaded. -/
def directory (config : Config) (m : μ) : Option Directory :=
  selectDirectory (decodeDirectory (M.sector m 0) config) (decodeDirectory (M.sector m 1) config)

/-- The rows of every namespace. -/
def rows (d : Directory) (m : μ) (i : Fin hardMaxNamespaces) : List Row :=
  ((M.content d m i).map fun r => r.1.rows).getD []

variable {M}

theorem Same.content (h : M.Same m m') (d : Directory) : M.content d m' = M.content d m := by
  unfold SlotMedia.content
  rw [h.2]

theorem Same.rows (h : M.Same m m') (d : Directory) : M.rows d m' = M.rows d m := by
  unfold SlotMedia.rows
  rw [h.content]

theorem directory_congr (h : M.sector m' = M.sector m) (config : Config) :
    M.directory config m' = M.directory config m := by
  unfold SlotMedia.directory
  rw [h]

/-- Loading the content reads the medium only, and answers it unless a read fails. -/
theorem loadNamespaceContent_spec {s : Storage} {r : Option (View × UInt64 × Fin 2)}
    (h : loadNamespaceContent port s m i = (r, m')) :
    M.Same m m' ∧ (r = none ∨ r = M.content s.directory m i) := by
  unfold loadNamespaceContent at h
  rcases h0 : port.media.read m (mediaDataOffset i 0) slotBytes with ⟨_ | image0, m0⟩
  · simp only [h0] at h
    cases h
    exact ⟨M.read h0, .inl rfl⟩
  have hsame := M.read h0
  rcases h1 : port.media.read m0 (mediaDataOffset i 1) slotBytes with ⟨_ | image1, m1⟩
  · simp only [h0, h1] at h
    cases h
    exact ⟨Same.trans hsame (M.read h1), .inl rfl⟩
  · simp only [h0, h1] at h
    cases h
    refine ⟨Same.trans hsame (M.read h1), .inr ?_⟩
    rw [M.read_slot h0, M.read_slot h1, hsame.2]
    rfl

theorem loadDirectory_spec {config : Config} {r : Option Directory}
    (h : loadDirectory port config m = (r, m')) :
    M.Same m m' ∧ (r = none ∨ r = M.directory config m) := by
  unfold loadDirectory at h
  rcases h0 : port.media.read m (mediaDirectoryOffset 0) dirBytes with ⟨_ | image0, m0⟩
  · simp only [h0] at h
    cases h
    exact ⟨M.read h0, .inl rfl⟩
  have hsame := M.read h0
  rcases h1 : port.media.read m0 (mediaDirectoryOffset 1) dirBytes with ⟨_ | image1, m1⟩
  · simp only [h0, h1] at h
    cases h
    exact ⟨Same.trans hsame (M.read h1), .inl rfl⟩
  · simp only [h0, h1] at h
    cases h
    refine ⟨Same.trans hsame (M.read h1), .inr ?_⟩
    rw [M.read_sector h0, M.read_sector h1, hsame.1]
    rfl

/-! ### The inactive slot -/

theorem selectContent_active {D : Fin 2 → Decoded (UInt64 × View)}
    (h : selectContent (D 0) (D 1) = some (view, gen, k)) : D k = .valid (gen, view) := by
  unfold selectContent at h
  split at h
  · split_ifs at h <;> cases h <;> assumption
  · cases h
    assumption
  · cases h
    assumption
  · cases h

/-- The other slot of a namespace decides the content only with a higher generation. -/
theorem selectContent_sibling {D D' : Fin 2 → Decoded (UInt64 × View)}
    (h : selectContent (D 0) (D 1) = some (view, gen, k)) (hk : D' k = D k) :
    (D' (sibling k) = D (sibling k) ∨ (∀ r, D' (sibling k) ≠ .valid r) →
        selectContent (D' 0) (D' 1) = some (view, gen, k)) ∧
      ∀ gen' view', D' (sibling k) = .valid (gen', view') → gen < gen' →
        selectContent (D' 0) (D' 1) = some (view', gen', sibling k) := by
  have hvalid := selectContent_active h
  rw [hvalid] at hk
  have hslot : ∀ e : Fin 2, e = 0 ∧ sibling e = 1 ∨ e = 1 ∧ sibling e = 0 := by decide
  refine ⟨fun ho => ho.elim (fun heq => ?_) fun hno => ?_, fun gen' view' hnew hlt => ?_⟩
  · have hsame : D' = D := by
      funext e
      rcases hslot k with ⟨rfl, hs⟩ | ⟨rfl, hs⟩ <;> rcases hslot e with ⟨rfl, -⟩ | ⟨rfl, -⟩ <;>
        first | exact hk.trans hvalid.symm | exact hs ▸ heq
    rw [hsame, h]
  · generalize hother : D' (sibling k) = x at hno
    rcases hslot k with ⟨rfl, hs⟩ | ⟨rfl, hs⟩ <;> rw [hs] at hother <;> rw [hk, hother] <;>
      cases x with
      | valid r => exact absurd rfl (hno r)
      | _ => rfl
  · rcases hslot k with ⟨rfl, hs⟩ | ⟨rfl, hs⟩ <;> rw [hs] at hnew ⊢ <;>
      rw [hk, hnew, selectContent]
    · rw [if_neg (UInt64.ne_of_lt hlt), if_neg (UInt64.lt_asymm hlt)]
    · rw [if_neg (UInt64.ne_of_lt hlt).symm, if_pos hlt]

theorem decoded_alike {entry : DirectoryEntry} {image' : List UInt8} (h : DecodesAs image image') :
    decoded entry image = decoded entry image' := by
  unfold decoded
  rw [h]

theorem decoded_rejected {entry : DirectoryEntry} (h : Rejected image) (r : UInt64 × View) :
    decoded entry image ≠ .valid r :=
  fun hd => h _ _ _ (atLeastSeed_valid hd)

/-- A write at the inactive slot leaves the content as it was, or replaces all of it. -/
theorem content_written (h : M.content d m i = some (view, gen, k))
    (honly : OnlyAt (M.slot m) (M.slot m') i (sibling k)) {rows : List Row} (hrows : Storable rows)
    (hgen : gen.toNat ≠ 2 ^ 64 - 1)
    (himage : image = slotImage (d.entries i).schema (gen + 1) (d.entries i).name rows.length
      (rowBytes rows) (packRows rows)) :
    (DecodesAs (M.slot m' i (sibling k)) (M.slot m i (sibling k)) ∨
          Rejected (M.slot m' i (sibling k)) →
        M.content d m' i = some (view, gen, k)) ∧
      (DecodesAs (M.slot m' i (sibling k)) image →
        M.content d m' i = some (View.ofRows rows, gen + 1, sibling k)) := by
  have hactive : decoded (d.entries i) (M.slot m i k) = .valid (gen, view) :=
    selectContent_active (D := fun e => decoded (d.entries i) (M.slot m i e)) h
  obtain ⟨name, -, -, -, -, hn1, hn2, hname, -⟩ := decodeSlot_valid (atLeastSeed_valid hactive)
  obtain rfl : (d.entries i).name = name := hname _ rfl
  have hseed : ¬gen < (d.entries i).dataSeedGeneration := fun hlt => by
    rw [decoded, atLeastSeed_valid hactive, atLeastSeed, if_pos hlt] at hactive
    cases hactive
  have hkept : M.slot m' i k = M.slot m i k :=
    honly i k fun heq => (show ∀ e : Fin 2, e ≠ sibling e by decide) k (Prod.mk.inj heq).2
  have hlt : gen < gen + 1 := by
    have hgen' := gen.toNat_lt
    rw [UInt64.lt_iff_toNat_lt, UInt64.toNat_add, UInt64.toNat_one]
    omega
  have hne : gen + 1 ≠ 0 := fun h0 => by
    rw [h0, UInt64.lt_iff_toNat_lt, UInt64.toNat_zero] at hlt
    omega
  obtain ⟨hold, hnew⟩ := @selectContent_sibling k view gen
    (fun e => decoded (d.entries i) (M.slot m i e))
    (fun e => decoded (d.entries i) (M.slot m' i e)) h (congrArg _ hkept)
  refine ⟨fun hs => hold (hs.imp decoded_alike decoded_rejected), fun hs => hnew _ _ ?_ hlt⟩
  rw [decoded_alike hs, himage, decoded, decodeSlot_slotImage hrows hne hn1 hn2 (by simp),
    atLeastSeed, if_neg fun hl => hseed (UInt64.lt_trans hlt hl)]

/-- What the media phases of a commit make of the namespaces: the one that is written keeps its
rows or has the new ones, whatever happens. -/
structure Written (M : SlotMedia port) (config : Config) (d : Directory) (m : μ)
    (i : Fin hardMaxNamespaces) (new : List Row) (w : Option Status × μ) : Prop where
  directory : M.directory config w.2 = M.directory config m
  other : ∀ j, j ≠ i → M.content d w.2 j = M.content d m j
  readable : ∀ j, M.content d m j ≠ none → M.content d w.2 j ≠ none
  rows : M.rows d w.2 = M.rows d m ∧ w.1 ≠ none ∨
    M.rows d w.2 = Function.update (M.rows d m) i new
  failed : w.1 ≠ some .ok

/-- **The media phases of a commit are atomic.** -/
theorem writeSlot_content (config : Config) (h : M.content d m i = some (view, gen, k))
    {rows : List Row} (hrows : Storable rows) (hgen : gen.toNat ≠ 2 ^ 64 - 1)
    (himage : image = slotImage (d.entries i).schema (gen + 1) (d.entries i).name rows.length
      (rowBytes rows) (packRows rows)) :
    Written M config d m i rows (writeSlot port m (mediaDataOffset i (sibling k)) image) := by
  have hlen : image.length = slotBytes := by rw [himage, length_slotImage]
  obtain ⟨hsector, honly, hslot, hstatus⟩ := writeSlot_spec (M := M) (m := m) (i := i)
    (k := sibling k) hlen rfl
  generalize writeSlot port m (mediaDataOffset i (sibling k)) image = w at *
  have hother : ∀ j, j ≠ i → M.content d w.2 j = M.content d m j := by
    intro j hj
    have hj' : ∀ e, M.slot w.2 j e = M.slot m j e := fun e => honly j e fun heq =>
      hj (Prod.mk.inj heq).1
    unfold content
    rw [hj', hj']
  have hrows' : ∀ {r}, M.content d w.2 i = some r →
      M.rows d w.2 = Function.update (M.rows d m) i r.1.rows := by
    intro r hr
    funext j
    rw [Function.update_apply]
    unfold SlotMedia.rows
    split_ifs with hj
    · rw [hj, hr]
      rfl
    · rw [hother j hj]
  obtain ⟨hkept, hnew⟩ := content_written h honly hrows hgen himage
  have hsome : M.content d w.2 i = some (view, gen, k) ∧ w.1 ≠ none ∨
      M.content d w.2 i = some (View.ofRows rows, gen + 1, sibling k) :=
    hslot.symm.imp (fun hs => ⟨hkept hs.2, hs.1⟩) hnew
  refine ⟨directory_congr hsector config, hother, fun j hj => ?_, hsome.imp (fun hc => ?_) fun hc =>
    (hrows' hc).trans (congrArg _ (View.rows_ofRows rows)), hstatus⟩
  · by_cases hji : j = i
    · rw [hji]
      exact hsome.elim (fun hc => by rw [hc.1]; nofun) fun hc => by rw [hc]; nofun
    · rwa [hother j hji]
  · refine ⟨(hrows' hc.1).trans ?_, hc.2⟩
    refine (congrArg _ ?_).trans (Function.update_eq_self i (M.rows d m))
    unfold SlotMedia.rows
    rw [h]
    rfl

end SlotMedia
end Ninlil.EspStorage
