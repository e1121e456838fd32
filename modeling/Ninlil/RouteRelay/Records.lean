import Ninlil.Lib.Crc
import Ninlil.Lib.Layout
import Ninlil.RouteRelay.Reload

/-!
# The records of a namespace of routes

* `validateNrd1`, `validateNrp1`, `validateNep1`: the directory, the pages of routes and the pages
  of evidence, with their checks;
* `routeImportRecordClass`: the class of a record of an image;
* `routeNsExport`, `routeNsImport`: the image of a namespace of routes;
* `emptyNrp1`: a page without routes, of the class that its place asks for.

The digest is a parameter.
-/

namespace Ninlil.RouteRelay

open Bytes
open Function (update_of_ne update_self)

/-! ### Fields -/

def importBytesZero (bytes : List UInt8) : Bool := bytes.all fun b => b == 0

def importBytesNonzero (bytes : List UInt8) : Bool := bytes.any fun b => b != 0

/-- A number that is neither zero nor the last one. -/
def proper (v : UInt64) : Bool := v != 0 && v != 0xffffffffffffffff

/-- The letters and the version that a record starts with. -/
def headed (magic bytes : List UInt8) : Bool := slice bytes 0 4 == magic && getU16Be bytes 4 == 1

/-- The bits of the places at which a test holds. -/
def bitsOf (count : ℕ) (test : ℕ → Bool) : UInt16 :=
  (List.range count).foldl
    (fun bits i => if test i then bits ||| (1 <<< UInt16.ofNat i) else bits) 0

/-! ### The directory -/

def nrd1Magic : List UInt8 := [78, 82, 68, 49]

def validateNrd1 (bytes : List UInt8) : Bool :=
  headed nrd1Magic bytes && getU16Be bytes 6 == 256 &&
    crc32cZeroed (bytes.take 256) 252 == getU32Be bytes 252

def routeDirectorySemanticValid (record : List UInt8) : Bool :=
  importBytesNonzero (slice record 16 16) && proper (getU64Be record 32) &&
    importBytesZero (slice record 124 128) &&
    ((List.range 16).all fun i => getU32Be record (44 + i * 4) != 0xffffffff) &&
    ((List.range 4).all fun i => getU32Be record (108 + i * 4) != 0xffffffff) &&
    bitsOf 16 (fun i => getU32Be record (44 + i * 4) != 0) == getU16Be record 40 &&
    bitsOf 4 (fun i => getU32Be record (108 + i * 4) != 0) == getU16Be record 42

/-! ### Pages of routes -/

/-- What a management body says of a route. -/
structure Nrm1Fields where
  authorityId : List UInt8
  controllerTerm : UInt64
  routeRevision : UInt64
  leaseEpoch : UInt64
  authorityClockEpochId : List UInt8
  leaseExpiryMs : UInt64
  ingressHopContextId : UInt32
  routeHandle : UInt16
  routeGeneration : UInt16
  egressPeerId : List UInt8
  egressHopContextId : UInt32
  egressRouteHandle : UInt16
  egressRouteGeneration : UInt16
  grantId : List UInt8
  queueQuotaEntries : UInt16
  queueQuotaBytes : UInt32
  maxHops : UInt8
  ackPolicy : UInt8
  terminalFlag : UInt8
  pathPolicyId : List UInt8
  pathPolicyRevision : UInt64

/-- The body that a relay sends for a route. -/
def materializeExact (f : Nrm1Fields) : List UInt8 :=
  f.egressPeerId ++ encodeBE 4 f.egressHopContextId.toNat ++ encodeBE 2 f.egressRouteHandle.toNat ++
    encodeBE 2 f.egressRouteGeneration.toNat ++ f.authorityId ++ encodeBE 8 f.leaseEpoch.toNat ++
    encodeBE 8 f.leaseExpiryMs.toNat ++ f.grantId ++ encodeBE 2 f.queueQuotaEntries.toNat ++ [0, 0] ++
    encodeBE 4 f.queueQuotaBytes.toNat ++ [f.maxHops, f.ackPolicy, f.terminalFlag, 0] ++
    encodeBE 4 f.ingressHopContextId.toNat ++ encodeBE 2 f.routeHandle.toNat ++
    encodeBE 2 f.routeGeneration.toNat ++ [0, 0, 0, 0]

def nrm1Magic : List UInt8 := [78, 82, 77, 49]

def nrp1Magic : List UInt8 := [78, 82, 80, 49]

section Routes

variable (sha256 : List UInt8 → List UInt8)

def decodeNrm1 (bytes : List UInt8) : Option Nrm1Fields :=
  if headed nrm1Magic bytes && getU16Be bytes 6 == 256 &&
      sha256 (bytes.take 156) == slice bytes 156 32 &&
      crc32c (bytes.take 188) == getU32Be bytes 188 then
    some
      { authorityId := slice bytes 8 16
        controllerTerm := getU64Be bytes 24
        routeRevision := getU64Be bytes 32
        leaseEpoch := getU64Be bytes 40
        authorityClockEpochId := slice bytes 48 16
        leaseExpiryMs := getU64Be bytes 64
        ingressHopContextId := getU32Be bytes 72
        routeHandle := getU16Be bytes 76
        routeGeneration := getU16Be bytes 78
        egressPeerId := slice bytes 80 16
        egressHopContextId := getU32Be bytes 96
        egressRouteHandle := getU16Be bytes 100
        egressRouteGeneration := getU16Be bytes 102
        grantId := slice bytes 104 16
        queueQuotaEntries := getU16Be bytes 120
        queueQuotaBytes := getU32Be bytes 124
        maxHops := bytes.getD 128 0
        ackPolicy := bytes.getD 129 0
        terminalFlag := bytes.getD 130 0
        pathPolicyId := slice bytes 132 16
        pathPolicyRevision := getU64Be bytes 148 }
  else none

/-- The state of a slot, its route and the number of the next admission. -/
def decodeSlotState (slot : List UInt8) : Option (UInt8 × Nrm1Fields × UInt64) :=
  if sha256 (slot.take 428) == slice slot 428 32 && crc32c (slot.take 460) == getU32Be slot 460 then
    (decodeNrm1 sha256 (slice slot 12 256)).map fun f => (slot.getD 0 0, f, getU64Be slot 420)
  else none

/-- The states of a route: installed, active, draining, fenced and retired. -/
def routeSlotImportValid (slot : List UInt8) : Bool :=
  1 ≤ slot.getD 0 0 && slot.getD 0 0 ≤ 5 && importBytesZero (slice slot 1 3) &&
    importBytesZero (slice slot 464 44) &&
    (decodeSlotState sha256 slot).any fun (state, f, nextAdmissionSeq) =>
      materializeExact f == slice slot 268 96 && getU32Be slot 4 == f.ingressHopContextId &&
        getU16Be slot 8 == f.routeHandle && getU16Be slot 10 == f.routeGeneration &&
        importBytesNonzero (slice slot 364 16) && proper (getU64Be slot 380) &&
        (!(1 ≤ state && state ≤ 3) || proper nextAdmissionSeq) &&
        (state != 3 || (List.range 4).all fun i => proper (getU64Be slot (388 + i * 8)))

def validateNrp1 (bytes : List UInt8) : Bool :=
  headed nrp1Magic bytes && getU16Be bytes 6 < 16 &&
    crc32cZeroed (bytes.take 4096) 16 == getU32Be bytes 16

def routePageSemanticValid (record : List UInt8) : Bool :=
  getU16Be record 12 &&& 0xff00 == 0 && getU16Be record 14 == 0 &&
    importBytesZero (slice record (20 + 8 * 508) 12) &&
    (List.range 8).all fun i =>
      if getU16Be record 12 &&& (1 <<< UInt16.ofNat i) != 0 then
        routeSlotImportValid sha256 (slice record (20 + i * 508) 508)
      else importBytesZero (slice record (20 + i * 508) 508)

/-! ### Pages of evidence -/

def nev1Magic : List UInt8 := [78, 69, 86, 49]

def nep1Magic : List UInt8 := [78, 69, 80, 49]

def validateNev1 (bytes : List UInt8) : Bool :=
  headed nev1Magic bytes && getU16Be bytes 6 == 128 &&
    (bytes.getD 86 0 == 1 || bytes.getD 86 0 == 2) &&
    sha256 (bytes.take 92) == slice bytes 92 32 && crc32c (bytes.take 124) == getU32Be bytes 124

def validateNep1 (bytes : List UInt8) : Bool :=
  headed nep1Magic bytes && getU16Be bytes 6 < 4 && getU32Be bytes 12 ≤ 31 &&
    crc32cZeroed (bytes.take 4096) 20 == getU32Be bytes 20

def evidencePageSemanticValid (record : List UInt8) : Bool :=
  getU32Be record 16 == 0 && importBytesZero (slice record (24 + 31 * 128) 104) &&
    (List.range 31).all fun i =>
      if i < (getU32Be record 12).toNat then
        (slice record (24 + i * 128) 128).getD 87 0 == 0 &&
          validateNev1 sha256 (slice record (24 + i * 128) 128)
      else importBytesZero (slice record (24 + i * 128) 128)

/-! ### The class of a record -/

/-- The class of a record of a namespace of routes. -/
def routeImportRecordClass (kid : UInt8) (gen : UInt64) (record : List UInt8) : CuClass :=
  if kid = 0 then
    if record.length = 256 ∧ gen ≠ 0 ∧ gen ≠ 0xffffffffffffffff ∧ validateNrd1 record ∧
        getU64Be record 8 = gen ∧ routeDirectorySemanticValid record then .none
    else .third
  else if gen = 0 ∨ 0xffffffff ≤ gen ∨ record.length ≠ 4096 then .third
  else if getU32Be record 8 ≠ gen.toUInt32 then .third
  else if 1 ≤ kid ∧ kid < 17 then
    if getU16Be record 6 = (kid - 1).toUInt16 ∧ validateNrp1 record ∧
        routePageSemanticValid sha256 record then .none
    else .third
  else if 17 ≤ kid ∧ kid < 21 then
    if getU16Be record 6 = (kid - 17).toUInt16 ∧ validateNep1 record ∧
        evidencePageSemanticValid sha256 record then .none
    else .third
  else .extra

end Routes

/-! ### A page without routes -/

section Pages

/-- A page of routes, up to its check. -/
def nrp1Head (pageIndex : UInt16) (pageGeneration : UInt32) (bitmap : UInt16) : List UInt8 :=
  nrp1Magic ++ (encodeBE 2 1 ++ (encodeBE 2 pageIndex.toNat ++ (encodeBE 4 pageGeneration.toNat ++
    (encodeBE 2 bitmap.toNat ++ [0, 0]))))

/-- A page of routes that has none. -/
def emptyNrp1 (pageIndex : UInt16) (pageGeneration : UInt32) : List UInt8 :=
  nrp1Head pageIndex pageGeneration 0 ++
    (encodeBE 4 (crc32c (nrp1Head pageIndex pageGeneration 0 ++
      ([0, 0, 0, 0] ++ List.replicate 4076 0))).toNat ++ List.replicate 4076 0)

variable {sha256 : List UInt8 → List UInt8} {kid : UInt8} {gen : UInt64} {pageIndex : UInt16}
  {pageGeneration : UInt32}

theorem length_nrp1Head {bitmap : UInt16} :
    (nrp1Head pageIndex pageGeneration bitmap).length = 16 := by
  simp [nrp1Head, nrp1Magic]

theorem length_emptyNrp1 : (emptyNrp1 pageIndex pageGeneration).length = 4096 := by
  unfold emptyNrp1
  rw [List.length_append, List.length_append, length_nrp1Head, length_encodeBE, List.length_replicate]

/-- After the check, a page without routes is zero. -/
theorem slice_emptyNrp1 {offset n : ℕ} (h : 20 ≤ offset) (hn : offset + n ≤ 4096) :
    slice (emptyNrp1 pageIndex pageGeneration) offset n = List.replicate n 0 := by
  unfold emptyNrp1
  rw [← List.append_assoc, slice_append_right (by
    rw [List.length_append, length_nrp1Head, length_encodeBE]
    exact h), List.length_append, length_nrp1Head, length_encodeBE]
  exact slice_replicate 0 (by omega)

theorem importBytesZero_replicate (n : ℕ) : importBytesZero (List.replicate n 0) = true := by
  unfold importBytesZero
  rw [List.all_replicate]
  simp

/-- The fields of a page without routes. -/
theorem emptyNrp1_fields : headed nrp1Magic (emptyNrp1 pageIndex pageGeneration) = true ∧
    getU16Be (emptyNrp1 pageIndex pageGeneration) 6 = pageIndex ∧
    getU32Be (emptyNrp1 pageIndex pageGeneration) 8 = pageGeneration ∧
    getU16Be (emptyNrp1 pageIndex pageGeneration) 12 = 0 ∧
    getU16Be (emptyNrp1 pageIndex pageGeneration) 14 = 0 := by
  have hpage : emptyNrp1 pageIndex pageGeneration = nrp1Magic ++ (encodeBE 2 (1 : UInt16).toNat ++
      (encodeBE 2 pageIndex.toNat ++ (encodeBE 4 pageGeneration.toNat ++
        (encodeBE 2 (0 : UInt16).toNat ++ (encodeBE 2 (0 : UInt16).toNat ++
          (encodeBE 4 (crc32c (nrp1Head pageIndex pageGeneration 0 ++
            ([0, 0, 0, 0] ++ List.replicate 4076 0))).toNat ++ List.replicate 4076 0)))))) := by
    unfold emptyNrp1 nrp1Head
    simp only [List.append_assoc]
    rfl
  have hmagic : nrp1Magic.length = 4 := rfl
  refine ⟨?_, ?_, ?_, ?_, ?_⟩
  · unfold headed
    rw [hpage, slice_first hmagic, getU16Be_field 1 hmagic]
    rfl
  · rw [hpage, ← List.append_assoc]
    exact getU16Be_field _ (by simp [hmagic])
  · rw [hpage, ← List.append_assoc, ← List.append_assoc]
    exact getU32Be_field _ (by simp [hmagic])
  · rw [hpage, ← List.append_assoc, ← List.append_assoc, ← List.append_assoc]
    exact getU16Be_field _ (by simp [hmagic])
  · rw [hpage, ← List.append_assoc, ← List.append_assoc, ← List.append_assoc, ← List.append_assoc]
    exact getU16Be_field _ (by simp [hmagic])

/-- It carries its check. -/
theorem validateNrp1_empty (h : pageIndex < 16) :
    validateNrp1 (emptyNrp1 pageIndex pageGeneration) = true := by
  obtain ⟨hheaded, hindex, -⟩ := @emptyNrp1_fields pageIndex pageGeneration
  have hcrc : crc32cZeroed (emptyNrp1 pageIndex pageGeneration) 16 =
      getU32Be (emptyNrp1 pageIndex pageGeneration) 16 := by
    have hhead := @length_nrp1Head pageIndex pageGeneration 0
    unfold emptyNrp1
    rw [getU32Be_field _ hhead]
    have hzeroed := @crc32cZeroed_append (nrp1Head pageIndex pageGeneration 0) _
      (List.replicate 4076 0) (length_encodeBE 4
        (crc32c (nrp1Head pageIndex pageGeneration 0 ++
          ([0, 0, 0, 0] ++ List.replicate 4076 0))).toNat)
    rwa [hhead] at hzeroed
  unfold validateNrp1
  rw [hheaded, hindex, List.take_of_length_le (le_of_eq length_emptyNrp1), hcrc, decide_eq_true h,
    beq_self_eq_true]
  rfl

theorem routePageSemanticValid_empty :
    routePageSemanticValid sha256 (emptyNrp1 pageIndex pageGeneration) = true := by
  obtain ⟨-, -, -, hbitmap, hzero⟩ := @emptyNrp1_fields pageIndex pageGeneration
  unfold routePageSemanticValid
  rw [hbitmap, hzero, slice_emptyNrp1 (by omega) (by omega), importBytesZero_replicate]
  refine Bool.and_eq_true_iff.2 ⟨rfl, List.all_eq_true.2 fun i hi => ?_⟩
  have hi' := List.mem_range.1 hi
  rw [if_neg (by simp), slice_emptyNrp1 (by omega) (by omega)]
  exact importBytesZero_replicate 508

/-- A page without routes, with the index of its key and the generation of its record. -/
theorem class_emptyNrp1 (hkid : 1 ≤ kid ∧ kid < 17) (hgen : gen ≠ 0 ∧ gen < 0xffffffff) :
    routeImportRecordClass sha256 kid gen (emptyNrp1 (kid - 1).toUInt16 gen.toUInt32) = .none := by
  obtain ⟨-, hindex, hgeneration, -⟩ := @emptyNrp1_fields (kid - 1).toUInt16 gen.toUInt32
  have hne : kid ≠ 0 := by
    rintro rfl
    exact absurd hkid.1 (by decide)
  have hlt : (kid - 1).toUInt16 < 16 := by
    rw [UInt16.lt_iff_toNat_lt, UInt8.toNat_toUInt16, UInt8.toNat_sub_of_le _ _ hkid.1]
    have h17 := UInt8.lt_iff_toNat_lt.1 hkid.2
    show kid.toNat - 1 < 16
    have h17' : (17 : UInt8).toNat = 17 := rfl
    omega
  unfold routeImportRecordClass
  rw [if_neg hne, if_neg (by
    rw [not_or, not_or, not_not, UInt64.not_le]
    exact ⟨hgen.1, hgen.2, length_emptyNrp1⟩), if_neg (not_not.2 hgeneration), if_pos hkid,
    if_pos ⟨hindex, validateNrp1_empty hlt, routePageSemanticValid_empty⟩]

end Pages

/-! ### The image of a namespace of routes -/

def rns1Magic : List UInt8 := [82, 78, 83, 49]

def routeNsExportSize (s : RouteNs) : ℕ := s.exportSize

def routeNsExport (s : RouteNs) : List UInt8 := nsExport rns1Magic s

def routeNsImport (sha256 : List UInt8 → List UInt8) (s : RouteNs) (bytes : List UInt8) :
    Bool × RouteNs :=
  nsImport rns1Magic (routeImportRecordClass sha256) s bytes

section Images

variable {sha256 : List UInt8 → List UInt8} {kid : UInt8} {gen : UInt64} {body : List UInt8}

/-- A record of the class asked for fits a page, and its generation can be followed. -/
theorem routeImportRecordClass_eq_none (h : routeImportRecordClass sha256 kid gen body = .none) :
    body.length ≤ pageBytes ∧ gen.toNat < 2 ^ 64 - 1 := by
  unfold routeImportRecordClass at h
  split at h
  · split at h
    next hcond =>
      obtain ⟨hlen, -, hmax, -⟩ := hcond
      have hne : gen.toNat ≠ 2 ^ 64 - 1 := fun heq => hmax (UInt64.toNat_inj.1 heq)
      have hlt := gen.toNat_lt
      unfold pageBytes
      omega
    next => cases h
  · split at h
    next => cases h
    next hcond =>
      rw [not_or, not_or, not_not, UInt64.not_le, UInt64.lt_iff_toNat_lt] at hcond
      obtain ⟨-, hlt, hlen⟩ := hcond
      have hbound : (0xffffffff : UInt64).toNat = 2 ^ 32 - 1 := rfl
      unfold pageBytes
      omega

/-- **Restart.** The image of a namespace that writers reached has the size announced, and a
namespace that reads it shows the same images, active and older, of every key. -/
theorem route_restart {w : World physicalKeyCount} (h : Reachable w)
    (hok : PresentOk (routeImportRecordClass sha256) w.ns) {t : RouteNs} (ht : t.fenced = false) :
    (routeNsExport w.ns).length = routeNsExportSize w.ns ∧
      ∃ s, routeNsImport sha256 t (routeNsExport w.ns) = (true, s) ∧
        ∀ keyId, (s.readActive keyId).map Image.view = (w.ns.readActive keyId).map Image.view ∧
          (s.readRetainedOld keyId).map Image.view =
            (w.ns.readRetainedOld keyId).map Image.view :=
  ⟨h.length_nsExport rfl, h.import_export rfl (by decide)
    (fun _ _ _ hnone => (routeImportRecordClass_eq_none hnone).1)
    (fun _ _ _ hnone => (routeImportRecordClass_eq_none hnone).2) hok ht⟩

/-- Images that pass their checks when they are committed are present as such. -/
theorem Reachable.presentOk {n : ℕ} {w : World n} (h : Reachable w)
    {cls : UInt8 → UInt64 → List UInt8 → CuClass}
    (hok : ∀ (k : Fin n), ∀ x ∈ w.history k,
      cls (UInt8.ofNat k) x.generation x.bytes = .none) : PresentOk cls w.ns := by
  intro k i x hpresent himage
  obtain ⟨-, -, hp⟩ | ⟨a, y, -, hy, hnew, hold⟩ := h.sound.slots k
  · rw [hp i] at hpresent
    cases hpresent
  · by_cases hia : i = a
    · subst hia
      rw [image_of_holds hnew] at himage
      cases himage
      exact hok k x (List.mem_of_getElem? hy)
    · have hother : i = !a := Bool.eq_not_of_ne hia
      subst hother
      obtain hp | ⟨z, hz, hold⟩ := hold
      · rw [hp] at hpresent
        cases hpresent
      · rw [image_of_holds hold] at himage
        cases himage
        exact hok k x (List.mem_of_getElem? hz)

/-- A digest that is not available: the code then goes on with zeros. -/
def noDigest (_ : List UInt8) : List UInt8 := List.replicate 32 0

/-- A page without routes, as a page of the arena. -/
def emptyPage (pageIndex : UInt16) (pageGeneration : UInt32) : Page :=
  ⟨emptyNrp1 pageIndex pageGeneration, length_emptyNrp1⟩

theorem class_emptyPage {sha256 : List UInt8 → List UInt8} {kid : UInt8} {gen : UInt64}
    (hkid : 1 ≤ kid ∧ kid < 17) (hgen : gen ≠ 0 ∧ gen < 0xffffffff) :
    routeImportRecordClass sha256 kid gen
      (Image.bytes ⟨emptyPage (kid - 1).toUInt16 gen.toUInt32, 4096, gen⟩) = .none := by
  have hbytes : Image.bytes ⟨emptyPage (kid - 1).toUInt16 gen.toUInt32, 4096, gen⟩ = _ :=
    List.take_of_length_le (le_of_eq length_emptyNrp1)
  rw [hbytes]
  exact class_emptyNrp1 hkid hgen

/-- A namespace with a page of key 2 and two of key 1, none of which has a route, survives its
restart. -/
theorem route_restart_two : ∃ w : World physicalKeyCount, Reachable w ∧
    (∃ x, w.ns.readRetainedOld 1 = some x) ∧ ∃ s,
      routeNsImport noDigest .init (routeNsExport w.ns) = (true, s) ∧
        ∀ keyId, (s.readActive keyId).map Image.view = (w.ns.readActive keyId).map Image.view ∧
          (s.readRetainedOld keyId).map Image.view =
            (w.ns.readRetainedOld keyId).map Image.view := by
  obtain ⟨w₁, h₁, hidle₁, hhist₁, -⟩ := (Reachable.init (n := physicalKeyCount)).write
    (fun _ => rfl) 2 (by decide) (emptyPage 1 1) 4096 (by decide)
  obtain ⟨w₂, h₂, hidle₂, hhist₂, -⟩ := h₁.write hidle₁ 1 (by decide) (emptyPage 0 1) 4096
    (by decide)
  obtain ⟨w₃, h₃, -, hhist₃, hold⟩ := h₂.write hidle₂ 1 (by decide) (emptyPage 0 2) 4096
    (by decide)
  have hone : w₂.history 1 = [⟨emptyPage 0 1, 4096, 1⟩] := by
    rw [hhist₂, update_self, hhist₁, update_of_ne (by decide)]
    rfl
  have hok : PresentOk (routeImportRecordClass noDigest) w₃.ns := by
    refine h₃.presentOk fun k x hx => ?_
    rw [hhist₃] at hx
    by_cases hk : k.val = 1
    · rw [hk, update_self, hone] at hx
      rw [hk]
      obtain rfl | hx := List.mem_cons.1 hx
      · exact @class_emptyPage _ 1 2 (by decide) (by decide)
      · obtain rfl := List.mem_singleton.1 hx
        exact @class_emptyPage _ 1 1 (by decide) (by decide)
    · rw [update_of_ne hk, hhist₂, update_of_ne hk, hhist₁] at hx
      by_cases hk2 : k.val = 2
      · rw [hk2, update_self] at hx
        obtain rfl := List.mem_singleton.1 hx
        rw [hk2]
        exact @class_emptyPage _ 2 1 (by decide) (by decide)
      · rw [update_of_ne hk2] at hx
        cases hx
  obtain ⟨-, s, hs, hviews⟩ := route_restart h₃ hok (t := .init) rfl
  exact ⟨w₃, h₃, ⟨_, hold ⟨emptyPage 0 1, 4096, 1⟩ (by rw [hone]; rfl) (by decide)⟩, s, hs, hviews⟩

/-- **All or nothing, for images that fit.** An import loads all of an image or nothing of it, in
every case but one: the check accepts more records than there are pages. -/
theorem route_import_all_or_nothing (sha256 : List UInt8 → List UInt8) {t : RouteNs}
    (ht : t.fenced = false) (bytes : List UInt8) :
    AllOrNothing rns1Magic (routeImportRecordClass sha256) t bytes ↔
      (preflight rns1Magic (routeImportRecordClass sha256) physicalKeyCount bytes = .none →
        (bytes.getD 4 0).toNat ≤ physicalKeyCount + 1) :=
  allOrNothing_iff rfl (by decide)
    (fun _ _ _ hnone => (routeImportRecordClass_eq_none hnone).1) ht

/-- The records of the pages of routes, none of which has a route, at each generation given. -/
def emptyPages (gens : List UInt64) : List Record :=
  (List.range 16).flatMap fun i => gens.map fun g =>
    ⟨UInt8.ofNat (i + 1), g, 4096, emptyNrp1 (UInt8.ofNat (i + 1) - 1).toUInt16 g.toUInt32⟩

/-- An image with one record of each page is loaded in full. -/
theorem route_import_pages :
    AllOrNothing rns1Magic (routeImportRecordClass noDigest) (Ns.init : RouteNs)
    (encodeImage rns1Magic (emptyPages [1])) :=
  (route_import_all_or_nothing noDigest rfl _).2 fun _ => by
    rw [getD_encodeImage rfl]
    decide +kernel

/-- An image with two records of each page is accepted, and not loaded in full. -/
theorem route_import_drops :
    ¬AllOrNothing rns1Magic (routeImportRecordClass noDigest) (Ns.init : RouteNs)
    (encodeImage rns1Magic (emptyPages [1, 2])) := by
  have hok : ∀ r ∈ emptyPages [1, 2], r.Ok (routeImportRecordClass noDigest) physicalKeyCount := by
    intro r hr
    obtain ⟨i, hi, hr⟩ := List.mem_flatMap.1 hr
    have hi' := List.mem_range.1 hi
    obtain ⟨g, hg, rfl⟩ := List.mem_map.1 hr
    have hkid : (UInt8.ofNat (i + 1)).toNat = i + 1 := by
      rw [UInt8.toNat_ofNat']
      omega
    refine ⟨?_, length_emptyNrp1.symm, class_emptyNrp1 ⟨?_, ?_⟩ ?_⟩
    · show (UInt8.ofNat (i + 1)).toNat < 21
      omega
    · rw [UInt8.le_iff_toNat_le, hkid]
      exact Nat.le_add_left 1 i
    · rw [UInt8.lt_iff_toNat_lt, hkid]
      show i + 1 < 17
      omega
    · show g ≠ 0 ∧ g < 0xffffffff
      rcases List.mem_cons.1 hg with rfl | hg
      · decide
      · obtain rfl := List.mem_singleton.1 hg
        decide
  have hadm : Admissible (routeImportRecordClass noDigest) physicalKeyCount none (fun _ => 0)
      (emptyPages [1, 2]) := by
    refine ⟨hok, ?_, ?_⟩
    · have hplaces : (none.toList ++ (emptyPages [1, 2]).map Record.place) =
          (List.range 16).flatMap fun i => [(UInt8.ofNat (i + 1), 1), (UInt8.ofNat (i + 1), 2)] := by
        rfl
      rw [hplaces]
      unfold Before
      decide +kernel
    · decide +kernel
  intro hall
  have hle := (allOrNothing_iff rfl (by decide) (fun _ _ _ hnone =>
    (routeImportRecordClass_eq_none hnone).1) rfl).1 hall
    ((preflight_eq_none_iff rfl (by decide)).2 ⟨_, rfl, by decide +kernel, hadm⟩)
  rw [getD_encodeImage rfl] at hle
  exact absurd hle (by decide +kernel)

end Images

end Ninlil.RouteRelay
