import Ninlil.Lib.Layout

/-!
# Records written at offsets

Encoders that store each field at an offset of its own, and decoders that read it there.

* `Put`, `putAll`: the stores of an encoder, in order;
* `Tiles`: the stores stand one behind the other, without gap or overlap;
* `putAll_tiles`: then nothing else of the image is left;
* `FixedLayout`: an encoder and a decoder whose fields correspond.
-/

namespace Ninlil.Bytes

/-! ### Stores -/

/-- One store: an offset, and the bytes written there. -/
abbrev Put := ℕ × List UInt8

def putU8 (offset : ℕ) (v : UInt8) : Put := (offset, [v])

def putU16Be (offset : ℕ) (v : UInt16) : Put := (offset, encodeBE 2 v.toNat)

def putU32Be (offset : ℕ) (v : UInt32) : Put := (offset, encodeBE 4 v.toNat)

def putU64Be (offset : ℕ) (v : UInt64) : Put := (offset, encodeBE 8 v.toNat)

/-- A `memcpy` of a whole field. -/
def putVector {n : ℕ} (offset : ℕ) (v : Vector UInt8 n) : Put := (offset, v.toList)

/-- The stores, in order. -/
def putAll (image : List UInt8) (puts : List Put) : List UInt8 :=
  puts.foldl (fun image put => store image put.1 put.2) image

/-- Stores of the given widths, each where the one before it ends. -/
def Tiles : ℕ → List ℕ → List Put → Prop
  | _, [], [] => True
  | offset, w :: ws, put :: puts =>
    put.1 = offset ∧ put.2.length = w ∧ Tiles (offset + w) ws puts
  | _, _, _ => False

section Stores

variable {image bytes : List UInt8} {offset n : ℕ} {ws ws' : List ℕ} {puts puts' : List Put}

theorem store_eq_append (h : offset + bytes.length ≤ image.length) :
    store image offset bytes =
      image.take offset ++ (bytes ++ image.drop (offset + bytes.length)) := by
  refine List.ext_getElem? fun j => ?_
  rw [getElem?_store]
  rcases lt_or_ge j offset with hj | hj
  · rw [List.getElem?_append_left (by rw [List.length_take]; omega), List.getElem?_take_of_lt hj]
    have hout : ¬ (offset ≤ j ∧ j < offset + bytes.length) := by omega
    simp [hout]
  · rw [List.getElem?_append_right (by rw [List.length_take]; omega), List.length_take,
      min_eq_left (by omega)]
    rcases lt_or_ge j (offset + bytes.length) with hj' | hj'
    · have hin : offset ≤ j ∧ j < offset + bytes.length := ⟨hj, hj'⟩
      have hlt : j < image.length := by omega
      have hb : j - offset < bytes.length := by omega
      rw [List.getElem?_append_left hb]
      simp [hin, hlt, hb]
    · have hout : ¬ (offset ≤ j ∧ j < offset + bytes.length) := by omega
      rw [List.getElem?_append_right (by omega), List.getElem?_drop]
      have hj'' : offset + bytes.length + (j - offset - bytes.length) = j := by omega
      rw [hj'']
      simp [hout]

theorem tiles_append (h : Tiles offset ws puts) (h' : Tiles (offset + ws.sum) ws' puts') :
    Tiles offset (ws ++ ws') (puts ++ puts') := by
  induction ws generalizing offset puts with
  | nil =>
    cases puts with
    | nil => simpa using h'
    | cons put puts => exact h.elim
  | cons w ws ih =>
    cases puts with
    | nil => exact h.elim
    | cons put puts =>
      obtain ⟨h1, h2, h3⟩ := h
      rw [List.sum_cons, ← Nat.add_assoc] at h'
      exact ⟨h1, h2, ih h3 h'⟩

theorem widths_of_tiles (h : Tiles offset ws puts) :
    (puts.map Prod.snd).map List.length = ws := by
  induction ws generalizing offset puts with
  | nil =>
    cases puts with
    | nil => rfl
    | cons put puts => exact h.elim
  | cons w ws ih =>
    cases puts with
    | nil => exact h.elim
    | cons put puts =>
      obtain ⟨-, h2, h3⟩ := h
      rw [List.map_cons, List.map_cons, h2, ih h3]

/-- Stores that tile a range leave what is before and after it, and replace all of it. -/
theorem putAll_tiles (h : Tiles offset ws puts) (hlen : offset + ws.sum ≤ image.length) :
    putAll image puts =
      image.take offset ++ ((puts.map Prod.snd).flatten ++ image.drop (offset + ws.sum)) := by
  induction ws generalizing offset puts image with
  | nil =>
    cases puts with
    | nil => simp [putAll]
    | cons put puts => exact h.elim
  | cons w ws ih =>
    cases puts with
    | nil => exact h.elim
    | cons put puts =>
      obtain ⟨h1, h2, h3⟩ := h
      rw [List.sum_cons] at hlen ⊢
      have hstore := @store_eq_append image put.2 put.1
        (by rw [h1, h2]; omega)
      have hpre : (image.take put.1 ++ put.2).length = offset + w := by
        rw [List.length_append, List.length_take, h1, h2, min_eq_left (by omega)]
      rw [← List.append_assoc, h1, h2] at hstore
      rw [h1] at hpre
      have htake : (store image offset put.2).take (offset + w) = image.take offset ++ put.2 := by
        rw [hstore]
        exact List.take_left' hpre
      have hdrop : (store image offset put.2).drop (offset + w + ws.sum) =
          image.drop (offset + (w + ws.sum)) := by
        rw [← List.drop_drop, hstore, List.drop_left' hpre, List.drop_drop, Nat.add_assoc]
      show putAll (store image put.1 put.2) puts = _
      rw [ih h3 (by rw [length_store]; omega), h1, htake, hdrop, List.map_cons, List.flatten_cons]
      simp only [List.append_assoc]

end Stores

/-! ### Fields -/

section Fields

variable {p : List UInt8} {o n : ℕ}

theorem encodeBE_inj {w a b : ℕ} (ha : a < 256 ^ w) (hb : b < 256 ^ w) :
    encodeBE w a = encodeBE w b ↔ a = b := by
  refine ⟨fun h => ?_, fun h => by rw [h]⟩
  rw [← decodeBE_encodeBE_of_lt ha, h, decodeBE_encodeBE_of_lt hb]

@[simp] theorem putU8_inj {v v' : UInt8} : (putU8 o v).2 = (putU8 o v').2 ↔ v = v' := by
  simp [putU8]

@[simp] theorem putU16Be_inj {v v' : UInt16} : (putU16Be o v).2 = (putU16Be o v').2 ↔ v = v' :=
  (encodeBE_inj v.toNat_lt v'.toNat_lt).trans UInt16.toNat_inj

@[simp] theorem putU32Be_inj {v v' : UInt32} : (putU32Be o v).2 = (putU32Be o v').2 ↔ v = v' :=
  (encodeBE_inj v.toNat_lt v'.toNat_lt).trans UInt32.toNat_inj

@[simp] theorem putU64Be_inj {v v' : UInt64} : (putU64Be o v).2 = (putU64Be o v').2 ↔ v = v' :=
  (encodeBE_inj v.toNat_lt v'.toNat_lt).trans UInt64.toNat_inj

@[simp] theorem putVector_inj {v v' : Vector UInt8 n} :
    (putVector o v).2 = (putVector o v').2 ↔ v = v' := Vector.toList_inj

/-! A field that was read is written back. -/

theorem putU8_get (h : o + 1 ≤ p.length) : (putU8 o (p.getD o 0)).2 = slice p o 1 := by
  refine List.ext_getElem? fun j => ?_
  rw [getElem?_slice]
  cases j with
  | zero => simp [putU8, show o < p.length by omega]
  | succ j => simp [putU8]

theorem putU16Be_get (h : o + 2 ≤ p.length) : (putU16Be o (getU16Be p o)).2 = slice p o 2 :=
  encode_getU16Be h

theorem putU32Be_get (h : o + 4 ≤ p.length) : (putU32Be o (getU32Be p o)).2 = slice p o 4 :=
  encode_getU32Be h

theorem putU64Be_get (h : o + 8 ≤ p.length) : (putU64Be o (getU64Be p o)).2 = slice p o 8 :=
  encode_getU64Be h

theorem putVector_get (h : o + n ≤ p.length) : (putVector o (getVector n p o)).2 = slice p o n :=
  toList_getVector h

end Fields

/-! ### Layouts -/

/-- A record of a fixed layout: the stores of its encoder tile the image, its decoder reads the
fields they store, and the stored fields determine the record. -/
structure FixedLayout (R : Type) where
  widths : List ℕ
  puts : R → List Put
  read : List UInt8 → R
  tiles : ∀ r, Tiles 0 widths (puts r)
  fields_read : ∀ p, p.length = widths.sum → (puts (read p)).map Prod.snd = chop 0 widths p
  fields_inj : ∀ r r', (puts r).map Prod.snd = (puts r').map Prod.snd → r = r'

namespace FixedLayout

variable {R : Type} (L : FixedLayout R) {image p : List UInt8}

/-- The encoder leaves nothing of the image it is given. -/
theorem putAll_eq (h : image.length = L.widths.sum) (r : R) :
    putAll image (L.puts r) = ((L.puts r).map Prod.snd).flatten := by
  rw [putAll_tiles (L.tiles r) (by omega), List.take_zero, Nat.zero_add, ← h, List.drop_length,
    List.append_nil, List.nil_append]

/-- **What was read is written.** -/
theorem write_read (h : image.length = L.widths.sum) (hp : p.length = L.widths.sum) :
    putAll image (L.puts (L.read p)) = p := by
  rw [L.putAll_eq h, L.fields_read p hp, flatten_chop, slice_self hp]

end FixedLayout

end Ninlil.Bytes
