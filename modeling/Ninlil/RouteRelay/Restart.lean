import Ninlil.Lib.Cursor
import Ninlil.RouteRelay.Writers

/-!
# The dual-page store: its image over a restart

* `Record`, `nsExport`: an image is a header and the records of the keys, those of a key by
  generation;
* `nsImport`: a check of the whole image, and then a write for each record;
* `preflight_eq_none_iff`: what the check accepts.

The class that a record must have is a parameter, as routes and parents differ in it.
-/

namespace Ninlil.RouteRelay

open Bytes

/-- A record of an image. -/
structure Record where
  kid : UInt8
  generation : UInt64
  length : UInt32
  body : List UInt8

/-- The bytes of a record. -/
def Record.encode (r : Record) : List UInt8 :=
  r.kid :: (encodeBE 8 r.generation.toNat ++ (encodeBE 4 r.length.toNat ++ r.body))

/-- The length that a record says it has. -/
def readLength (bytes : List UInt8) : UInt32 := UInt32.ofNat (decodeBE (slice bytes 9 4))

/-- Reads a record, and what follows it. -/
def readRecord (bytes : List UInt8) : Record × List UInt8 :=
  (⟨bytes.headD 0, UInt64.ofNat (decodeBE (slice bytes 1 8)), readLength bytes,
    slice bytes 13 (readLength bytes).toNat⟩, bytes.drop (13 + (readLength bytes).toNat))

variable {n : ℕ}

/-! ### Export -/

/-- The slot holds an image. -/
def Slot.stored (x : Slot n) : Bool := x.present && x.pageIdx.isSome

/-- The slots of a key that hold an image, by generation. -/
def DualMeta.exportOrder (b : DualMeta n) : List Bool :=
  let order := [false, true].filter fun i => (b.slots i).stored
  if order = [false, true] ∧ (b.slots false).generation > (b.slots true).generation then
    [true, false]
  else order

/-- The records of a key. -/
def Ns.exportRecords (s : Ns n) (k : Fin n) : List Record :=
  (s.keys k).exportOrder.filterMap fun i =>
    (s.image ((s.keys k).slots i)).map fun x =>
      ⟨UInt8.ofNat k, x.generation, x.length, x.bytes⟩

/-- The records of all keys. -/
def Ns.records (s : Ns n) : List Record := (List.finRange n).flatMap s.exportRecords

/-- The bytes that a key takes in an image. -/
def DualMeta.exportBytes (b : DualMeta n) : ℕ :=
  (([false, true].filter fun i => (b.slots i).stored).map fun i => 13 + (b.slots i).length.toNat).sum

/-- The size of the image of a namespace. -/
def Ns.exportSize (s : Ns n) : ℕ := 8 + ((List.finRange n).map fun k => (s.keys k).exportBytes).sum

/-- An image of records. -/
def encodeImage (magic : List UInt8) (rs : List Record) : List UInt8 :=
  magic ++ ([UInt8.ofNat rs.length, 0, 0, 0] ++ rs.flatMap Record.encode)

/-- The image of a namespace. -/
def nsExport (magic : List UInt8) (s : Ns n) : List UInt8 := encodeImage magic s.records

/-! ### Import -/

section Import

variable (magic : List UInt8) (cls : UInt8 → UInt64 → List UInt8 → CuClass)

/-- Checks the records left, after the one of key and generation `prev`, with `seen` records of each
key before. -/
def preflightFrom (n : ℕ) : ℕ → Option (UInt8 × UInt64) → (UInt8 → ℕ) → List UInt8 → CuClass
  | 0, _, _, rest => if rest.isEmpty then .none else .extra
  | count + 1, prev, seen, rest =>
    let r := (readRecord rest).1
    if rest.length < 13 then .partial_
    else if n ≤ r.kid.toNat then .extra
    else if prev.any fun q => r.kid < q.1 || r.kid == q.1 && r.generation ≤ q.2 then .third
    else if 2 < seen r.kid + 1 then .third
    else if rest.length - 13 < r.length.toNat then .partial_
    else if cls r.kid r.generation r.body ≠ .none then cls r.kid r.generation r.body
    else preflightFrom n count (some (r.kid, r.generation))
      (Function.update seen r.kid (seen r.kid + 1)) (readRecord rest).2

/-- Checks an image. -/
def preflight (n : ℕ) (bytes : List UInt8) : CuClass :=
  if bytes.length < 8 ∨ slice bytes 0 4 ≠ magic then .partial_
  else if slice bytes 5 3 ≠ [0, 0, 0] then .third
  else if 2 * n < (bytes.getD 4 0).toNat then .third
  else preflightFrom cls n (bytes.getD 4 0).toNat none (fun _ => 0) (bytes.drop 8)

/-- An empty namespace that is fenced. -/
def importFence (c : CuClass) : Ns n := { Ns.init with cuClass := c, corrupt := true, fenced := true }

/-- The generation of the active slot, patched. -/
def Ns.setGeneration (s : Ns n) (keyId : ℕ) (gen : UInt64) : Ns n :=
  if h : keyId < n then
    (s.keys ⟨keyId, h⟩).active.elim s fun a =>
      s.put ⟨keyId, h⟩ a { (s.keys ⟨keyId, h⟩).slots a with generation := gen }
  else s

/-- Bytes at the start of a page. -/
def Page.write (x : Page) (bytes : List UInt8) : Page :=
  ⟨(bytes ++ x.bytes.drop bytes.length).take pageBytes, by
    rw [List.length_take, List.length_append, List.length_drop, x.size]
    omega⟩

/-- Writes a record to its key. -/
def Ns.load (s : Ns n) (r : Record) : Bool × Ns n :=
  match s.beginWrite r.kid.toNat with
  | (none, s') => (false, s')
  | (some (p, _), s') =>
    match (s'.fill p (Page.zero.write r.body)).commit r.kid.toNat r.length with
    | (false, s'') => (false, s'')
    | (true, s'') => (true, s''.setGeneration r.kid.toNat r.generation)

/-- Writes the records left. -/
def loadFrom : ℕ → Ns n → List UInt8 → Bool × Ns n
  | 0, s, _ => (true, { s with cuClass := s.classifyCu })
  | count + 1, s, rest =>
    match s.load (readRecord rest).1 with
    | (false, _) => (false, importFence .partial_)
    | (true, s') => loadFrom count s' (readRecord rest).2

/-- Reads an image into a namespace. -/
def nsImport (s : Ns n) (bytes : List UInt8) : Bool × Ns n :=
  if s.fenced then (false, s)
  else if preflight magic cls n bytes ≠ .none then
    (false, importFence (preflight magic cls n bytes))
  else loadFrom (bytes.getD 4 0).toNat .init (bytes.drop 8)

end Import

/-! ### Records -/

section Records

variable {bytes rest : List UInt8} {r : Record}

theorem Record.length_encode (r : Record) : r.encode.length = 13 + r.body.length := by
  unfold Record.encode
  rw [List.length_cons, List.length_append, List.length_append, length_encodeBE, length_encodeBE]
  omega

theorem readRecord_encode (h : r.length.toNat = r.body.length) (rest : List UInt8) :
    readRecord (r.encode ++ rest) = (r, rest) := by
  obtain ⟨kid, generation, length, body⟩ := r
  have hbytes : (Record.encode ⟨kid, generation, length, body⟩) ++ rest =
      [kid] ++ (encodeBE 8 generation.toNat ++ (encodeBE 4 length.toNat ++ (body ++ rest))) := by
    simp only [Record.encode, List.cons_append, List.nil_append, List.append_assoc]
  have hgen : slice (Record.encode ⟨kid, generation, length, body⟩ ++ rest) 1 8 =
      encodeBE 8 generation.toNat := by
    rw [hbytes]
    exact slice_field rfl (length_encodeBE 8 _)
  have hlen : slice (Record.encode ⟨kid, generation, length, body⟩ ++ rest) 9 4 =
      encodeBE 4 length.toNat := by
    rw [hbytes, ← List.append_assoc]
    refine slice_field ?_ (length_encodeBE 4 _)
    rw [List.length_append, length_encodeBE, List.length_singleton]
  have hpre : ([kid] ++ encodeBE 8 generation.toNat ++ encodeBE 4 length.toNat).length = 13 := by
    rw [List.length_append, List.length_append, length_encodeBE, length_encodeBE,
      List.length_singleton]
  have hassoc : Record.encode ⟨kid, generation, length, body⟩ ++ rest =
      ([kid] ++ encodeBE 8 generation.toNat ++ encodeBE 4 length.toNat) ++ (body ++ rest) := by
    rw [hbytes]
    simp only [List.append_assoc]
  have hbody : slice (Record.encode ⟨kid, generation, length, body⟩ ++ rest) 13 body.length =
      body := by
    rw [hassoc]
    exact slice_field hpre rfl
  have hdrop : (Record.encode ⟨kid, generation, length, body⟩ ++ rest).drop (13 + body.length) =
      rest := by
    have hl := Record.length_encode ⟨kid, generation, length, body⟩
    rw [← hl]
    exact List.drop_left
  have hlen' : UInt32.ofNat (decodeBE (encodeBE 4 length.toNat)) = length := by
    rw [decodeBE_encodeBE_of_lt length.toNat_lt, UInt32.ofNat_toNat]
  have hgen' : UInt64.ofNat (decodeBE (encodeBE 8 generation.toNat)) = generation := by
    rw [decodeBE_encodeBE_of_lt generation.toNat_lt, UInt64.ofNat_toNat]
  have hlength : length.toNat = body.length := h
  unfold readRecord readLength
  rw [hlen, hlen', hgen, hgen', hlength, hbody, hdrop]
  rfl

/-- The bytes of what was read. -/
theorem encode_readRecord (h : 13 ≤ bytes.length)
    (hlen : (readRecord bytes).1.length.toNat ≤ bytes.length - 13) :
    (readRecord bytes).1.encode ++ (readRecord bytes).2 = bytes ∧
      (readRecord bytes).1.length.toNat = (readRecord bytes).1.body.length := by
  have hbody : (readRecord bytes).1.body.length = (readRecord bytes).1.length.toNat := by
    refine length_slice_of_le ?_
    have hle : (readLength bytes).toNat ≤ bytes.length - 13 := hlen
    omega
  have hgen : encodeBE 8 (readRecord bytes).1.generation.toNat = slice bytes 1 8 := by
    have hl : (slice bytes 1 8).length = 8 := length_slice_of_le (by omega)
    have hlt := decodeBE_lt (slice bytes 1 8)
    have henc := encodeBE_decodeBE (slice bytes 1 8)
    rw [hl] at hlt henc
    have hval : (readRecord bytes).1.generation.toNat = decodeBE (slice bytes 1 8) :=
      UInt64.toNat_ofNat_of_lt' hlt
    rw [hval, henc]
  have hl4 : encodeBE 4 (readRecord bytes).1.length.toNat = slice bytes 9 4 := by
    have hl : (slice bytes 9 4).length = 4 := length_slice_of_le (by omega)
    have hlt := decodeBE_lt (slice bytes 9 4)
    have henc := encodeBE_decodeBE (slice bytes 9 4)
    rw [hl] at hlt henc
    have hval : (readRecord bytes).1.length.toNat = decodeBE (slice bytes 9 4) :=
      UInt32.toNat_ofNat_of_lt' hlt
    rw [hval, henc]
  refine ⟨?_, hbody.symm⟩
  have hkid : [(readRecord bytes).1.kid] = slice bytes 0 1 := by
    cases bytes with
    | nil => cases h
    | cons b bytes => rfl
  have hrest : (readRecord bytes).2 = bytes.drop (13 + (readRecord bytes).1.length.toNat) := rfl
  have hslice : (readRecord bytes).1.body = slice bytes 13 (readRecord bytes).1.length.toNat := rfl
  unfold Record.encode
  rw [hgen, hl4, hslice, hrest, ← List.singleton_append, hkid]
  simp only [List.append_assoc]
  rw [← List.append_assoc (slice bytes 9 4), slice_append_slice,
    ← List.append_assoc (slice bytes 1 8),
    slice_append_slice, ← List.append_assoc (slice bytes 0 1), slice_append_slice]
  show bytes.take (1 + (8 + (4 + (readRecord bytes).1.length.toNat))) ++ _ = bytes
  rw [← Nat.add_assoc, ← Nat.add_assoc]
  exact List.take_append_drop ..

end Records

/-! ### What the check accepts -/

/-- A record's place in an image. -/
def Record.place (r : Record) : UInt8 × UInt64 := (r.kid, r.generation)

/-- One place before another: a key before, or an earlier generation of the same key. -/
def Before (q q' : UInt8 × UInt64) : Prop := q.1 < q'.1 ∨ q.1 = q'.1 ∧ q.2 < q'.2

/-- A record that may stand in an image. -/
structure Record.Ok (cls : UInt8 → UInt64 → List UInt8 → CuClass) (n : ℕ) (r : Record) : Prop where
  key : r.kid.toNat < n
  length : r.length.toNat = r.body.length
  cls : cls r.kid r.generation r.body = .none

/-- Records that may follow the one at `prev`, with `seen` records of each key before. -/
structure Admissible (cls : UInt8 → UInt64 → List UInt8 → CuClass) (n : ℕ)
    (prev : Option (UInt8 × UInt64)) (seen : UInt8 → ℕ) (rs : List Record) : Prop where
  ok : ∀ r ∈ rs, r.Ok cls n
  chain : (prev.toList ++ rs.map Record.place).IsChain Before
  few : ∀ r ∈ rs, seen r.kid + rs.countP (fun q => q.kid = r.kid) ≤ 2

section Check

variable {cls : UInt8 → UInt64 → List UInt8 → CuClass} {prev : Option (UInt8 × UInt64)}
  {seen : UInt8 → ℕ} {r : Record} {rs : List Record}

theorem isChain_toList_cons {q : UInt8 × UInt64} {qs : List (UInt8 × UInt64)} :
    (prev.toList ++ q :: qs).IsChain Before ↔
      (∀ q' ∈ prev, Before q' q) ∧ (q :: qs).IsChain Before := by
  cases prev with
  | none => simp
  | some q' => simp [List.isChain_cons_cons]

theorem admissible_nil : Admissible cls n prev seen [] := by
  refine ⟨fun r hr => absurd hr List.not_mem_nil, ?_, fun r hr => absurd hr List.not_mem_nil⟩
  cases prev with
  | none => exact List.isChain_nil
  | some q => exact List.isChain_singleton q

theorem admissible_cons : Admissible cls n prev seen (r :: rs) ↔
    r.Ok cls n ∧ (∀ q ∈ prev, Before q r.place) ∧ seen r.kid + 1 ≤ 2 ∧
      Admissible cls n (some r.place) (Function.update seen r.kid (seen r.kid + 1)) rs := by
  constructor
  · intro h
    obtain ⟨hprev, hchain⟩ := isChain_toList_cons.1 h.chain
    have hself := h.few r List.mem_cons_self
    rw [List.countP_cons_of_pos (by simp)] at hself
    refine ⟨h.ok r List.mem_cons_self, hprev, by omega,
      ⟨fun r' hr' => h.ok r' (List.mem_cons_of_mem _ hr'), hchain, fun r' hr' => ?_⟩⟩
    have hfew := h.few r' (List.mem_cons_of_mem _ hr')
    by_cases hk : r.kid = r'.kid
    · rw [List.countP_cons_of_pos (by simpa using hk)] at hfew
      rw [← hk, Function.update_self]
      rw [← hk] at hfew
      omega
    · rw [List.countP_cons_of_neg (by simpa using hk)] at hfew
      rw [Function.update_of_ne (Ne.symm hk)]
      exact hfew
  · rintro ⟨hok, hprev, hseen, h⟩
    refine ⟨fun r' hr' => ?_, isChain_toList_cons.2 ⟨hprev, h.chain⟩, fun r' hr' => ?_⟩
    · rcases List.mem_cons.1 hr' with rfl | hr'
      · exact hok
      · exact h.ok r' hr'
    · by_cases hk : r.kid = r'.kid
      · rw [List.countP_cons_of_pos (by simpa using hk), ← hk]
        by_cases hmem : ∃ q ∈ rs, q.kid = r.kid
        · obtain ⟨q, hq, hqk⟩ := hmem
          have hfew := h.few q hq
          rw [hqk, Function.update_self] at hfew
          omega
        · have hzero : rs.countP (fun q => q.kid = r.kid) = 0 := by
            rw [List.countP_eq_zero]
            intro q hq hqk
            exact hmem ⟨q, hq, by simpa using hqk⟩
          omega
      · rw [List.countP_cons_of_neg (by simpa using hk)]
        rcases List.mem_cons.1 hr' with rfl | hr'
        · exact absurd rfl hk
        · have hfew := h.few r' hr'
          rwa [Function.update_of_ne (Ne.symm hk)] at hfew

theorem not_any_iff {kid : UInt8} {gen : UInt64} :
    (prev.any fun q => kid < q.1 || kid == q.1 && gen ≤ q.2) = false ↔
      ∀ q ∈ prev, Before q (kid, gen) := by
  cases prev with
  | none => simp
  | some q =>
    simp only [Option.any_some, Option.mem_def, Option.some.injEq, forall_eq', Before,
      Bool.or_eq_false_iff, decide_eq_false_iff_not, Bool.and_eq_false_iff, beq_eq_false_iff_ne,
      UInt8.not_lt, UInt64.not_le]
    constructor
    · rintro ⟨hle, hne | hlt⟩
      · exact .inl (UInt8.lt_of_le_of_ne hle (Ne.symm hne))
      · obtain hlt' | heq := UInt8.lt_or_eq_of_le hle
        · exact .inl hlt'
        · exact .inr ⟨heq, hlt⟩
    · rintro (hlt | ⟨heq, hlt⟩)
      · exact ⟨UInt8.le_of_lt hlt, .inl (UInt8.ne_of_lt hlt).symm⟩
      · exact ⟨heq ▸ UInt8.le_refl _, .inr hlt⟩

/-- The check accepts the records that may stand in an image, and nothing else. -/
theorem preflightFrom_eq_none_iff {count : ℕ} {rest : List UInt8} :
    preflightFrom cls n count prev seen rest = .none ↔
      ∃ rs, rest = rs.flatMap Record.encode ∧ rs.length = count ∧
        Admissible cls n prev seen rs := by
  induction count generalizing prev seen rest with
  | zero =>
    unfold preflightFrom
    cases rest with
    | nil => exact ⟨fun _ => ⟨[], rfl, rfl, admissible_nil⟩, fun _ => rfl⟩
    | cons b rest =>
      refine ⟨fun h => (by cases h), ?_⟩
      rintro ⟨rs, hrest, hlen, -⟩
      rw [List.length_eq_zero_iff.1 hlen] at hrest
      cases hrest
  | succ count ih =>
    unfold preflightFrom
    dsimp only
    constructor
    · intro h
      split at h
      next => cases h
      next h13 =>
      split at h
      next => cases h
      next hkey =>
      split at h
      next => cases h
      next hbefore =>
      split at h
      next => cases h
      next hseen =>
      split at h
      next => cases h
      next hlen =>
      split at h
      next hcls => exact absurd h hcls
      next hcls =>
      obtain ⟨rs, hrest, hcount, hadm⟩ := ih.1 h
      obtain ⟨henc, hbody⟩ := encode_readRecord (Nat.le_of_not_lt h13) (Nat.le_of_not_lt hlen)
      refine ⟨(readRecord rest).1 :: rs, ?_, congrArg (· + 1) hcount, admissible_cons.2 ⟨?_, ?_, ?_,
        hadm⟩⟩
      · rw [List.flatMap_cons, ← hrest, henc]
      · exact ⟨Nat.lt_of_not_le hkey, hbody, not_not.1 hcls⟩
      · exact not_any_iff.1 (Bool.eq_false_of_not_eq_true hbefore)
      · omega
    · rintro ⟨rs, rfl, hcount, hadm⟩
      cases rs with
      | nil => cases hcount
      | cons r rs =>
        obtain ⟨hok, hprev, hseen, hadm'⟩ := admissible_cons.1 hadm
        have hlen := Record.length_encode r
        have hok' := hok.length
        rw [List.flatMap_cons, readRecord_encode hok.length, if_neg (by
          rw [List.length_append, hlen]
          omega), if_neg (Nat.not_le.2 hok.key), if_neg (by
          rw [not_any_iff.2 hprev]
          exact Bool.false_ne_true), if_neg (Nat.not_lt.2 hseen), if_neg (by
          rw [List.length_append, hlen]
          show ¬_ < r.length.toNat
          omega), if_neg (not_not.2 hok.cls)]
        exact ih.2 ⟨rs, rfl, Nat.succ.inj hcount, hadm'⟩

theorem getD_encodeImage {magic : List UInt8} (hmagic : magic.length = 4) (rs : List Record) :
    (encodeImage magic rs).getD 4 0 = UInt8.ofNat rs.length := by
  obtain ⟨a, b, c, d, rfl⟩ := List.length_eq_four.1 hmagic
  rfl

theorem drop_encodeImage {magic : List UInt8} (hmagic : magic.length = 4) (rs : List Record) :
    (encodeImage magic rs).drop 8 = rs.flatMap Record.encode := by
  obtain ⟨a, b, c, d, rfl⟩ := List.length_eq_four.1 hmagic
  rfl

theorem toNat_count (h : rs.length < 256) : (UInt8.ofNat rs.length).toNat = rs.length := by
  rw [UInt8.toNat_ofNat']
  omega

/-- An image of admissible records, and nothing else, passes the check. -/
theorem preflight_eq_none_iff {magic bytes : List UInt8} (hmagic : magic.length = 4)
    (hn : 2 * n < 256) : preflight magic cls n bytes = .none ↔
      ∃ rs, bytes = encodeImage magic rs ∧ rs.length ≤ 2 * n ∧
        Admissible cls n none (fun _ => 0) rs := by
  unfold preflight
  constructor
  · intro h
    split at h
    next => cases h
    next hfirst =>
    split at h
    next => cases h
    next hzero =>
    split at h
    next => cases h
    next hcount =>
    obtain ⟨rs, hrest, hlen, hadm⟩ := preflightFrom_eq_none_iff.1 h
    obtain ⟨h8, hm⟩ := not_or.1 hfirst
    have hcountByte : [UInt8.ofNat rs.length] = slice bytes 4 1 := by
      have hlt : 4 < bytes.length := by omega
      rw [hlen, List.getD_eq_getElem _ _ hlt, UInt8.ofNat_toNat]
      unfold slice
      rw [List.take_one_drop_eq_of_lt_length hlt]
      rfl
    refine ⟨rs, ?_, by omega, hadm⟩
    unfold encodeImage
    rw [← hrest, ← not_not.1 hm, ← List.singleton_append (l := [0, 0, 0]), ← not_not.1 hzero,
      hcountByte]
    simp only [List.append_assoc]
    rw [← List.append_assoc (slice bytes 0 4), slice_append_slice, ← List.append_assoc (slice _ _ _),
      slice_append_slice]
    exact (List.take_append_drop 8 bytes).symm
  · rintro ⟨rs, rfl, hle, hadm⟩
    rw [getD_encodeImage hmagic, drop_encodeImage hmagic, toNat_count (by omega)]
    obtain ⟨a, b, c, d, rfl⟩ := List.length_eq_four.1 hmagic
    have h8 : 8 ≤ (encodeImage [a, b, c, d] rs).length := by
      unfold encodeImage
      simp only [List.length_append, List.length_cons, List.length_nil]
      omega
    have hmagic' : slice (encodeImage [a, b, c, d] rs) 0 4 = [a, b, c, d] := rfl
    have hzero : slice (encodeImage [a, b, c, d] rs) 5 3 = [0, 0, 0] := rfl
    rw [if_neg (not_or.2 ⟨Nat.not_lt.2 h8, not_not.2 hmagic'⟩), if_neg (not_not.2 hzero),
      if_neg (Nat.not_lt.2 hle)]
    exact preflightFrom_eq_none_iff.2 ⟨rs, rfl, rfl, hadm⟩

end Check

end Ninlil.RouteRelay
