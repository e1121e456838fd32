import Ninlil.Fabric.Schema
import Ninlil.Lib.Sizes

/-!
# The durable records of the fabric: what is written is what is read

* `fbm1Layout` and its siblings: the stores of each record tile its payload, and the decoder reads
  the fields they store;
* `RoundTrips`: encoding and decoding are inverse on what the decoder accepts;
* `fabric_records`: so they are for each of the six record types.
-/

namespace Ninlil.Fabric
namespace Schema

open Bytes

/-! ### Candidates -/

/-- The widths of a candidate. -/
def candidateWidths : List ℕ := [16, 2, 2, 2, 2]

theorem tiles_candidates (off : ℕ) (cs : List PolicyCandidate) :
    Tiles off (List.replicate cs.length candidateWidths).flatten (candidatePuts off cs) := by
  induction cs generalizing off with
  | nil => trivial
  | cons c cs ih =>
    have htail := ih (off + 24)
    refine ⟨rfl, Vector.length_toList, rfl, length_encodeBE 2 _, rfl, length_encodeBE 2 _, rfl,
      length_encodeBE 2 _, rfl, length_encodeBE 2 _, htail⟩

theorem candidates_read {p : List UInt8} (n off : ℕ) (h : off + 24 * n ≤ p.length) :
    (candidatePuts off (List.ofFn fun i : Fin n => readCandidate p (off + 24 * i))).map Prod.snd =
      chop off (List.replicate n candidateWidths).flatten p := by
  induction n generalizing off with
  | zero => rfl
  | succ n ih =>
    have htail := ih (off + 24) (by omega)
    have hshift : (fun i : Fin n => readCandidate p (off + 24 * (Fin.succ i).val)) =
        fun i : Fin n => readCandidate p (off + 24 + 24 * i.val) := by
      funext i
      rw [Fin.val_succ, Nat.mul_add, Nat.add_assoc, Nat.mul_one, Nat.add_comm (24 * i.val) 24]
    simp only [List.ofFn_succ, candidatePuts, List.map_cons, List.replicate_succ,
      List.flatten_cons, candidateWidths, List.cons_append, List.nil_append, chop]
    rw [hshift, htail]
    simp only [readCandidate, Fin.val_zero, Nat.mul_zero, Nat.add_zero]
    rw [putVector_get (by omega), putU16Be_get (by omega), putU16Be_get (by omega),
      putU16Be_get (by omega), putU16Be_get (by omega)]
    rfl

theorem candidates_inj {off : ℕ} {cs cs' : List PolicyCandidate}
    (h : (candidatePuts off cs).map Prod.snd = (candidatePuts off cs').map Prod.snd) :
    cs = cs' := by
  induction cs generalizing off cs' with
  | nil =>
    cases cs' with
    | nil => rfl
    | cons c' cs' => cases h
  | cons c cs ih =>
    cases cs' with
    | nil => cases h
    | cons c' cs' =>
      simp only [candidatePuts, List.map_cons, List.cons.injEq, putVector_inj, putU16Be_inj] at h
      obtain ⟨h1, h2, h3, h4, h5, htail⟩ := h
      cases c
      cases c'
      simp only at h1 h2 h3 h4 h5
      rw [ih htail, h1, h2, h3, h4, h5]

/-! ### Layouts -/

/-- The widths of FBM1. -/
def fbm1Widths : List ℕ :=
  [2, 2, 2, 2, 8, 8, 8, 4, 4]

def fbm1Layout : FixedLayout Fbm1 where
  widths := fbm1Widths
  puts := fbm1Puts
  read := fbm1Read
  tiles r := by
    simp [Tiles, fbm1Widths, fbm1Puts, putU16Be, putU32Be, putU64Be]
  fields_read p h := by
    have hlen : p.length = 40 := h
    simp only [fbm1Puts, fbm1Read, fbm1Widths, List.map_cons, List.map_nil, chop, Nat.reduceAdd]
    simp (disch := omega) only [putU16Be_get, putU32Be_get, putU64Be_get]
  fields_inj r r' h := by
    cases r
    cases r'
    simpa only [fbm1Puts, List.map_cons, List.map_nil, List.cons.injEq, putU8_inj, putU16Be_inj,
      putU32Be_inj, putU64Be_inj, putVector_inj, and_true, Fbm1.mk.injEq] using h

/-- The widths of FBR1. -/
def fbr1Widths : List ℕ :=
  [16, 4, 4, 4, 8, 32, 16, 4, 32, 8, 16, 8, 32, 16, 16, 32, 4, 4, 2, 2, 2, 2, 8, 16, 1, 1, 2, 8,
    2, 2, 4, 8, 32]

def fbr1Layout : FixedLayout Fbr1 where
  widths := fbr1Widths
  puts := fbr1Puts
  read := fbr1Read
  tiles r := by
    simp [Tiles, fbr1Widths, fbr1Puts, putU8, putU16Be, putU32Be, putU64Be, putVector]
  fields_read p h := by
    have hlen : p.length = 348 := h
    simp only [fbr1Puts, fbr1Read, fbr1Widths, List.map_cons, List.map_nil, chop, Nat.reduceAdd]
    simp (disch := omega) only [putU8_get, putU16Be_get, putU32Be_get, putU64Be_get, putVector_get]
  fields_inj r r' h := by
    cases r
    cases r'
    simpa only [fbr1Puts, List.map_cons, List.map_nil, List.cons.injEq, putU8_inj, putU16Be_inj,
      putU32Be_inj, putU64Be_inj, putVector_inj, and_true, Fbr1.mk.injEq] using h

/-- The widths of FBP1 before the candidates. -/
def fbp1HeadWidths : List ℕ :=
  [16, 8, 32, 32, 4, 4, 2, 2, 4, 4, 2, 2, 4, 1, 1, 1, 1, 8, 2, 2, 4]

theorem tiles_fbp1Head (r : Fbp1) : Tiles 0 fbp1HeadWidths (fbp1HeadPuts r) := by
  simp [Tiles, fbp1HeadWidths, fbp1HeadPuts, putU8, putU16Be, putU32Be, putU64Be, putVector]

theorem vector3_ext {v v' : Vector UInt8 3}
    (h0 : getElem v 0 (Nat.zero_lt_succ _) = getElem v' 0 (Nat.zero_lt_succ _))
    (h1 : getElem v 1 (Nat.one_lt_succ_succ _) = getElem v' 1 (Nat.one_lt_succ_succ _))
    (h2 : getElem v 2 (Nat.lt_succ_self _) = getElem v' 2 (Nat.lt_succ_self _)) : v = v' := by
  refine Vector.ext fun i hi => ?_
  interval_cases i
  · exact h0
  · exact h1
  · exact h2

theorem chop_append (o : ℕ) (ws ws' : List ℕ) (p : List UInt8) :
    chop o (ws ++ ws') p = chop o ws p ++ chop (o + ws.sum) ws' p := by
  induction ws generalizing o with
  | nil => rfl
  | cons w ws ih =>
    rw [List.cons_append, chop, chop, ih, List.sum_cons, Nat.add_assoc, List.cons_append]

theorem fbp1Head_read {p : List UInt8} (h : p.length = 328) :
    (fbp1HeadPuts (fbp1Read p)).map Prod.snd = chop 0 fbp1HeadWidths p := by
  simp only [fbp1HeadPuts, fbp1Read, fbp1HeadWidths, List.map_cons, List.map_nil, chop,
    Nat.reduceAdd]
  have h0 : #v[p.getD 117 0, p.getD 118 0, p.getD 119 0][0] = p.getD 117 0 := rfl
  have h1 : #v[p.getD 117 0, p.getD 118 0, p.getD 119 0][1] = p.getD 118 0 := rfl
  have h2 : #v[p.getD 117 0, p.getD 118 0, p.getD 119 0][2] = p.getD 119 0 := rfl
  rw [h0, h1, h2]
  simp (disch := omega) only [putU8_get, putU16Be_get, putU32Be_get, putU64Be_get, putVector_get]

def fbp1Layout : FixedLayout Fbp1 where
  widths := fbp1HeadWidths ++ (List.replicate 8 candidateWidths).flatten
  puts := fbp1Puts
  read := fbp1Read
  tiles r := by
    have htail := tiles_candidates 136 r.candidates.toList
    rw [Vector.length_toList] at htail
    exact tiles_append (tiles_fbp1Head r) htail
  fields_read p h := by
    have hlen : p.length = 328 := h
    have hlist : (fbp1Read p).candidates.toList =
        List.ofFn fun i : Fin 8 => readCandidate p (136 + 24 * i) := Vector.toList_ofFn
    rw [fbp1Puts, List.map_append, fbp1Head_read hlen, hlist, candidates_read 8 136 (by omega),
      chop_append]
    rfl
  fields_inj r r' h := by
    have hlen : (fbp1HeadPuts r).map Prod.snd = (fbp1HeadPuts r').map Prod.snd ∧
        (candidatePuts 136 r.candidates.toList).map Prod.snd =
          (candidatePuts 136 r'.candidates.toList).map Prod.snd := by
      rw [fbp1Puts, fbp1Puts, List.map_append, List.map_append] at h
      exact List.append_inj h (by rfl)
    obtain ⟨hhead, htail⟩ := hlen
    have hcandidates : r.candidates = r'.candidates := Vector.toList_inj.1 (candidates_inj htail)
    cases r
    cases r'
    simp only [fbp1HeadPuts, List.map_cons, List.map_nil, List.cons.injEq, putU8_inj,
      putU16Be_inj, putU32Be_inj, putU64Be_inj, putVector_inj, and_true] at hhead
    obtain ⟨e1, e2, e3, e4, e5, e6, e7, e8, e9, e10, e11, e12, e13, e14, z0, z1, z2, e15, e16, e17,
      e18⟩ := hhead
    simp only [Fbp1.mk.injEq]
    exact ⟨e1, e2, e3, e4, e5, e6, e7, e8, e9, e10, e11, e12, e13, e14, vector3_ext z0 z1 z2, e15,
      e16, e17, e18, hcandidates⟩

/-- The widths of FBC1. -/
def fbc1Widths : List ℕ :=
  [16, 32, 4, 4, 2, 2, 16, 16, 16, 16, 8, 32, 4, 16, 8, 4, 4, 16, 32, 200, 16, 8, 8, 8]

def fbc1Layout : FixedLayout Fbc1 where
  widths := fbc1Widths
  puts := fbc1Puts
  read := fbc1Read
  tiles r := by
    simp [Tiles, fbc1Widths, fbc1Puts, putU16Be, putU32Be, putU64Be, putVector]
  fields_read p h := by
    have hlen : p.length = 488 := h
    simp only [fbc1Puts, fbc1Read, fbc1Widths, List.map_cons, List.map_nil, chop, Nat.reduceAdd]
    simp (disch := omega) only [putU16Be_get, putU32Be_get, putU64Be_get, putVector_get]
  fields_inj r r' h := by
    cases r
    cases r'
    simpa only [fbc1Puts, List.map_cons, List.map_nil, List.cons.injEq, putU8_inj, putU16Be_inj,
      putU32Be_inj, putU64Be_inj, putVector_inj, and_true, Fbc1.mk.injEq] using h

/-- The widths of FBA1. -/
def fba1Widths : List ℕ :=
  [16, 16, 4, 4, 4, 32, 16, 8, 32, 16, 8, 4, 4, 16, 8, 4, 16, 32, 8, 32, 32, 16, 8, 16, 32, 8, 16,
    16, 32, 8, 16, 1, 7, 8, 16, 16, 8, 4, 32, 16, 8, 16, 8, 32, 8, 16, 8, 4]

def fba1Layout : FixedLayout Fba1 where
  widths := fba1Widths
  puts := fba1Puts
  read := fba1Read
  tiles r := by
    simp [Tiles, fba1Widths, fba1Puts, putU8, putU32Be, putU64Be, putVector]
  fields_read p h := by
    have hlen : p.length = 688 := h
    simp only [fba1Puts, fba1Read, fba1Widths, List.map_cons, List.map_nil, chop, Nat.reduceAdd]
    simp (disch := omega) only [putU8_get, putU32Be_get, putU64Be_get, putVector_get]
  fields_inj r r' h := by
    cases r
    cases r'
    simpa only [fba1Puts, List.map_cons, List.map_nil, List.cons.injEq, putU8_inj, putU16Be_inj,
      putU32Be_inj, putU64Be_inj, putVector_inj, and_true, Fba1.mk.injEq] using h

/-- The widths of FBT1. -/
def fbt1Widths : List ℕ :=
  [16, 16, 4, 4, 16, 16, 16, 8, 4, 4, 32, 16, 8, 32, 16, 8, 8]

def fbt1Layout : FixedLayout Fbt1 where
  widths := fbt1Widths
  puts := fbt1Puts
  read := fbt1Read
  tiles r := by
    simp [Tiles, fbt1Widths, fbt1Puts, putU32Be, putU64Be, putVector]
  fields_read p h := by
    have hlen : p.length = 224 := h
    simp only [fbt1Puts, fbt1Read, fbt1Widths, List.map_cons, List.map_nil, chop, Nat.reduceAdd]
    simp (disch := omega) only [putU32Be_get, putU64Be_get, putVector_get]
  fields_inj r r' h := by
    cases r
    cases r'
    simpa only [fbt1Puts, List.map_cons, List.map_nil, List.cons.injEq, putU8_inj, putU16Be_inj,
      putU32Be_inj, putU64Be_inj, putVector_inj, and_true, Fbt1.mk.injEq] using h

/-! ### Round trips -/

/-- Encoding and decoding are inverse on the records that the decoder returns and on the payloads
that it accepts, and no two of these are confused. -/
structure RoundTrips {R : Type} (size : ℕ) (encode : R → List UInt8)
    (decode : List UInt8 → Except RecordStatus R) : Prop where
  decode_encode : ∀ p r, p.length = size → decode p = .ok r → decode (encode r) = .ok r
  encode_decode : ∀ p r, p.length = size → decode p = .ok r → encode r = p
  distinct : ∀ p p' r r', p.length = size → p'.length = size → decode p = .ok r →
    decode p' = .ok r' → p ≠ p' → r ≠ r'

/-- A decoder that reads a layout and then checks the record. -/
theorem roundTrips_of_layout {R : Type} (L : FixedLayout R) (bad : R → Prop) [DecidablePred bad]
    {image : List UInt8} (himage : image.length = L.widths.sum)
    {decode : List UInt8 → Except RecordStatus R}
    (hdecode : ∀ p, decode p = if bad (L.read p) then .error .corrupt else .ok (L.read p)) :
    RoundTrips L.widths.sum (fun r => putAll image (L.puts r)) decode := by
  have hread : ∀ p r, decode p = .ok r → r = L.read p := by
    intro p r h
    rw [hdecode p] at h
    by_cases hb : bad (L.read p)
    · rw [if_pos hb] at h
      cases h
    · rw [if_neg hb] at h
      cases h
      rfl
  have hwrite : ∀ p r, p.length = L.widths.sum → decode p = .ok r →
      putAll image (L.puts r) = p := by
    intro p r hp h
    rw [hread p r h]
    exact L.write_read himage hp
  refine ⟨fun p r hp h => ?_, hwrite, fun p p' r r' hp hp' h h' hne hr => ?_⟩
  · rw [hwrite p r hp h]
    exact h
  · refine hne ?_
    rw [← hwrite p r hp h, ← hwrite p' r' hp' h', hr]

/-- **The durable records of the fabric round-trip**, each of the six types in both directions. -/
theorem fabric_records :
    (∀ out, out.length = 40 → RoundTrips 40 (fbm1Encode out) fbm1Decode) ∧
      RoundTrips 348 fbr1Encode fbr1Decode ∧ RoundTrips 328 fbp1Encode fbp1Decode ∧
      RoundTrips 488 fbc1Encode fbc1Decode ∧ RoundTrips 688 fba1Encode fba1Decode ∧
      RoundTrips 224 fbt1Encode fbt1Decode := by
  refine ⟨fun out hout => ?_, ?_, ?_, ?_, ?_, ?_⟩
  · exact roundTrips_of_layout fbm1Layout
      (fun r => r.reservedZero ≠ 0 ∨ r.reservedZeroU32 ≠ 0) hout fun _ => rfl
  · exact roundTrips_of_layout fbr1Layout
      (fun r => r.reservedZeroU16 ≠ 0 ∨ r.reservedAvailU16 ≠ 0 ∨ r.reservedPeerU16 ≠ 0)
      List.length_replicate fun _ => rfl
  · exact roundTrips_of_layout fbp1Layout
      (fun r => r.reservedZeroU8[0] ≠ 0 ∨ r.reservedZeroU8[1] ≠ 0 ∨ r.reservedZeroU8[2] ≠ 0
        ∨ r.reservedZeroU16 ≠ 0 ∨ r.reservedZeroU32 ≠ 0) List.length_replicate fun _ => rfl
  · exact roundTrips_of_layout fbc1Layout
      (fun r => r.reservedZeroU32 ≠ 0 ∨ r.reservedZeroU64 ≠ 0) List.length_replicate fun _ => rfl
  · exact roundTrips_of_layout fba1Layout
      (fun r => isZero r.reservedAvail.toList = false ∨ r.routeFlags ≠ 0)
      List.length_replicate fun _ => rfl
  · exact roundTrips_of_layout fbt1Layout (fun r => r.reservedZeroU32 ≠ 0)
      List.length_replicate fun _ => rfl

end Schema
end Ninlil.Fabric
