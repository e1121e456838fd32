import Ninlil.EspStorage.DirectoryFormat
import Ninlil.EspStorage.Handles

/-!
# The publication of a directory

* `decodeDirectory_image`: the image of a directory counts from its seal on;
* `directory_publication`: the directory that is loaded changes with the seal of the new one.
-/

namespace Ninlil.EspStorage

open Bytes

variable {config : Config} {generation : UInt64} {cache : Directory}

/-- The image of a directory is that directory when it is sealed, and empty otherwise. -/
theorem decodeDirectory_image (hw : Directory.WellFormed cache.entries) (hgen : generation ≠ 0)
    (hconfig : config.maxNamespaces ≤ hardMaxNamespaces) (mark : UInt32) :
    decodeDirectory (storeU32 (directoryBody generation config cache) dirSealOffset mark) config =
      if mark = dirSealCommitted then
        .valid { generation := generation, entries := cache.entries }
      else .empty := by
  have hf := @directoryBody_fields generation config cache hconfig mark
  have hmark : loadU32 (storeU32 (directoryBody generation config cache) dirSealOffset mark)
      dirSealOffset = mark := by
    refine loadU32_eq_of_slice (slice_storeU32_self ?_)
    have hlen := hf.length
    rw [length_storeU32] at hlen
    exact hlen
  split_ifs with hs
  · exact decodeDirectory_sealed hf hw hgen hconfig (hmark.trans hs)
  · exact decodeDirectory_unsealed hf hgen hconfig (by rwa [hmark])

/-- Storing a number over another one. -/
theorem storeU32_storeU32 (image : List UInt8) (offset : ℕ) (v w : UInt32) :
    storeU32 (storeU32 image offset v) offset w = storeU32 image offset w := by
  refine List.ext_getElem? fun j => ?_
  unfold storeU32
  rw [getElem?_store, getElem?_store, getElem?_store, length_encodeLE, length_encodeLE,
    Option.map_map]
  refine congrArg (fun f => Option.map f image[j]?) (funext fun b => ?_)
  rw [Function.comp_apply]
  split_ifs <;> rfl

/-- The directories of two sectors, the one at `slot` given first. -/
def selectAt (slot : Fin 2) (here other : Decoded Directory) : Option Directory :=
  if slot = 0 then selectDirectory here other else selectDirectory other here

/-- **A directory is published by its seal.** With a sealed directory in one sector, the image that
`encodeDirectory` makes of the next one, in the other, does not count until the seal is written over
it; from then on it is the directory that is loaded. -/
theorem directory_publication {new : Directory} {next : UInt64} {old image : List UInt8}
    (hcache : Directory.WellFormed cache.entries) (hnew : Directory.WellFormed new.entries)
    (hnext : generation < next) (slot : Fin 2)
    (hold : encodeDirectory generation config cache true = some old)
    (himage : encodeDirectory next config new false = some image) :
    selectAt slot (decodeDirectory old config) (decodeDirectory image config) =
        some { generation := generation, activeDirSlot := slot, entries := cache.entries } ∧
      selectAt slot (decodeDirectory old config)
          (decodeDirectory (storeU32 image dirSealOffset dirSealCommitted) config) =
        some { generation := next, activeDirSlot := sibling slot, entries := new.entries } := by
  unfold encodeDirectory at hold himage
  simp only [Bool.false_eq_true, reduceIte] at hold himage
  split_ifs at hold with hbad
  split_ifs at himage with hbad'
  simp only [not_or] at hbad hbad'
  have hmax : config.maxNamespaces ≤ hardMaxNamespaces := not_lt.1 hbad.2.2
  have hread := decodeDirectory_image hcache hbad.1 hmax dirSealCommitted
  have hblank := decodeDirectory_image hnew hbad'.1 hmax dirSealNone
  have hsealed := decodeDirectory_image hnew hbad'.1 hmax dirSealCommitted
  rw [if_pos rfl] at hread hsealed
  rw [if_neg (show dirSealNone ≠ dirSealCommitted by decide)] at hblank
  rw [← Option.some.inj hold, ← Option.some.inj himage, storeU32_storeU32, hread, hblank, hsealed]
  have hne : generation ≠ next := UInt64.ne_of_lt hnext
  have hslot : slot = 0 ∨ slot = 1 := by fin_cases slot <;> decide
  rcases hslot with rfl | rfl
  · refine ⟨rfl, ?_⟩
    rw [selectAt, if_pos rfl, selectDirectory, if_neg hne, if_neg (UInt64.lt_asymm hnext)]
    rfl
  · refine ⟨rfl, ?_⟩
    rw [selectAt, if_neg (by decide), selectDirectory, if_neg hne.symm, if_pos hnext]
    rfl

/-- A directory with one namespace, called "A". -/
def oneNamespace : Directory where
  generation := 1
  entries := fun i => if i = 0 then newEntry [65] schemaM1a else {}

theorem wellFormed_oneNamespace : Directory.WellFormed oneNamespace.entries where
  entry := fun i => by
    unfold oneNamespace
    dsimp only
    split_ifs
    · exact .inr (by decide)
    · exact .inl rfl
  distinct := by decide

theorem one_namespace_published : ∃ old image,
    encodeDirectory 1 sampleConfig oneNamespace true = some old ∧
      encodeDirectory 2 sampleConfig {} false = some image ∧
      selectAt 0 (decodeDirectory old sampleConfig) (decodeDirectory image sampleConfig) =
        some oneNamespace ∧
      selectAt 0 (decodeDirectory old sampleConfig)
          (decodeDirectory (storeU32 image dirSealOffset dirSealCommitted) sampleConfig) =
        some { generation := 2, activeDirSlot := 1 } := by
  obtain ⟨old, hold⟩ : ∃ old, encodeDirectory 1 sampleConfig oneNamespace true = some old :=
    ⟨_, by rw [encodeDirectory, if_neg (by decide)]⟩
  obtain ⟨image, himage⟩ : ∃ image, encodeDirectory 2 sampleConfig {} false = some image :=
    ⟨_, by rw [encodeDirectory, if_neg (by decide)]⟩
  have hempty : Directory.WellFormed ({} : Directory).entries := ⟨fun _ => .inl rfl, by decide⟩
  exact ⟨old, image, hold, himage,
    directory_publication wellFormed_oneNamespace hempty (by decide) 0 hold himage⟩

end Ninlil.EspStorage
