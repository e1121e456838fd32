import Ninlil.Wifi.ArenaLayout

/-!
# What a call does to the blocks

* `neededBytes_eq_some`: a payload fits into its block, whose span is aligned;
* `usableBlock_laidOut`: the block that is used is `place`d in the region;
* `releasedBlock_stored`: the block that is freed is a free block in the region.
-/

namespace Ninlil.Wifi

open Bytes Memory Arena

/-! ### The bytes needed -/

section Needed

variable {p : Platform} {a b n requested needed value : ℕ}

theorem addSize_eq_some (h : addSize p a b = some n) : n = a + b := by
  unfold addSize at h
  split_ifs at h
  exact (Option.some.inj h).symm

theorem alignUpSize_eq_some (h : alignUpSize p value = some n) :
    value ≤ n ∧ n % p.alignment = 0 := by
  unfold alignUpSize at h
  obtain ⟨sum, hsum, rfl⟩ := Option.map_eq_some_iff.1 h
  have hpos := p.alignment_pos
  have hsum := addSize_eq_some hsum
  have hmask : sum &&& (p.alignment - 1) = sum % p.alignment := by
    obtain ⟨k, hk⟩ := p.power
    rw [hk, Nat.and_two_pow_sub_one_eq_mod]
  have hlt := Nat.mod_lt sum hpos
  rw [hmask]
  exact ⟨by omega, Nat.mod_eq_zero_of_dvd (Nat.dvd_sub_mod sum)⟩

/-- The payload, its header and its tail fit into the aligned bytes. -/
theorem neededBytes_eq_some (h : neededBytes p requested = some needed) :
    p.headerBytes + requested + tailBytes ≤ needed ∧ needed % p.alignment = 0 := by
  unfold neededBytes at h
  obtain ⟨minimum, hminimum, halign⟩ := Option.bind_eq_some_iff.1 h
  obtain ⟨first, hfirst, hsecond⟩ := Option.bind_eq_some_iff.1 hminimum
  rw [← addSize_eq_some hfirst, ← addSize_eq_some hsecond]
  exact alignUpSize_eq_some halign

end Needed

/-! ### Using a block -/

section Using

variable {p : Platform} {m m' : Mem} {offset span requested needed : ℕ} {b : Block}

theorem sameOutside_writeTail (m : Mem) (payload requested value : ℕ) :
    SameOutside m (writeTail m payload requested value) (payload + requested) tailBytes :=
  SameOutside.write (length_encodeLE 4 value).le

/-- The payload is cleared and the canary stands behind it. -/
def filled (p : Platform) (m : Mem) (offset requested : ℕ) : Mem :=
  writeTail (m.zero (offset + p.headerBytes) requested) (offset + p.headerBytes) requested tailCanary

theorem sameOutside_filled (p : Platform) (m : Mem) (offset requested : ℕ) :
    SameOutside m (filled p m offset requested) (offset + p.headerBytes) (requested + tailBytes) :=
  (SameOutside.zero.widen le_rfl (by omega)).trans
    ((sameOutside_writeTail _ _ _ _).widen (by omega) (by omega))

theorem zero_filled (p : Platform) (m : Mem) (offset requested : ℕ) :
    (filled p m offset requested).Zero (offset + p.headerBytes) requested :=
  Mem.Zero.of_zero.congr fun i _ hi' => sameOutside_writeTail _ _ _ _ i (.inl hi')

theorem stored_filled (hok : BlockOk p ⟨true, span, requested⟩)
    (hread : readBlock p m offset = headerOf ⟨true, span, requested⟩)
    (hzero : m.Zero (offset + p.headerBytes) (span - p.headerBytes)) :
    Stored p (filled p m offset requested) offset ⟨true, span, requested⟩ := by
  have hroom : p.headerBytes + requested + tailBytes ≤ span := hok.used rfl
  have hsame := sameOutside_filled p m offset requested
  refine ⟨?_, fun _ => ?_, fun _ => ?_, fun h => by cases h⟩
  · rw [readBlock_apart hsame (.inl le_rfl), hread]
  · have htail : (filled p m offset requested).read (offset + p.headerBytes + requested) 4 =
        encodeLE 4 tailCanary := Mem.read_write_same (length_encodeLE _ _)
    unfold readTail
    rw [htail, decodeLE_encodeLE_of_lt (by decide)]
  · have hslack : m.Zero (offset + (p.headerBytes + requested + tailBytes))
        (span - (p.headerBytes + requested + tailBytes)) := hzero.part (by omega) (by omega)
    exact hslack.congr fun i hi _ => hsame i (by omega)

/-- The block that is used is placed where the free one stood. -/
theorem usableBlock_laidOut (hok : BlockOk p b) (hstored : Stored p m offset b)
    (hfree : b.used = false) (hsmall : b.span ≤ 0xFFFFFFFF)
    (hneed : neededBytes p requested = some needed) (hfit : needed ≤ b.span) :
    LaidOut p (usableBlock p m offset requested needed).1 offset
        (place needed p.leastRest requested b) ∧
      (usableBlock p m offset requested needed).2 =
        usedBytes (place needed p.leastRest requested b) ∧
      SameOutside m (usableBlock p m offset requested needed).1 offset b.span ∧
      (usableBlock p m offset requested needed).1.Zero (offset + p.headerBytes) requested := by
  obtain ⟨hroom, haligned⟩ := neededBytes_eq_some hneed
  have hheader := hok.header
  have hspan : (readBlock p m offset).spanBytes = b.span := by rw [hstored.header]; rfl
  have hzero := hstored.free hfree
  by_cases hrest : b.span - needed < p.leastRest
  · -- What is left is too little for a block, and stays with the payload.
    have husable : usableBlock p m offset requested needed =
        (filled p (writeBlock p m offset (headerOf ⟨true, b.span, requested⟩)) offset requested,
          b.span) := by
      unfold usableBlock
      simp only [hspan, if_pos hrest, if_true, ne_eq, not_true, if_false]
      rfl
    have hused : BlockOk p ⟨true, b.span, requested⟩ :=
      ⟨hheader, hok.aligned, fun _ => hroom.trans hfit, fun h => by cases h⟩
    have hwrite := sameOutside_writeBlock p m offset (headerOf ⟨true, b.span, requested⟩)
    have hplace : place needed p.leastRest requested b = [⟨true, b.span, requested⟩] :=
      if_pos hrest
    rw [husable, hplace]
    refine ⟨laidOut_singleton.2 ⟨hused, stored_filled hused ?_ ?_⟩, rfl, ?_, zero_filled _ _ _ _⟩
    · exact readBlock_writeBlock (hused.fits hsmall)
    · exact hzero.congr fun i hi _ => hwrite i (.inr hi)
    · exact (hwrite.widen le_rfl (by omega)).trans
        ((sameOutside_filled _ _ _ _).widen (by omega) (by omega))
  · -- The rest becomes a free block.
    have hleast : p.headerBytes + tailBytes + p.alignment ≤ b.span - needed := Nat.not_lt.1 hrest
    have hpos := p.headerBytes_pos
    have husable : usableBlock p m offset requested needed =
        (filled p (writeBlock p (writeBlock p m offset (headerOf ⟨true, needed, requested⟩))
          (offset + needed) (headerOf (.free (b.span - needed)))) offset requested, needed) := by
      unfold usableBlock
      have hne : b.span - needed ≠ 0 := by omega
      simp only [hspan, if_neg hrest, hne, if_false, ne_eq, not_false_iff, if_true]
      rfl
    have hused : BlockOk p ⟨true, needed, requested⟩ :=
      ⟨by show p.headerBytes ≤ needed; omega, haligned, fun _ => hroom, fun h => by cases h⟩
    have hrestOk : BlockOk p (.free (b.span - needed)) := by
      refine ⟨by show p.headerBytes ≤ b.span - needed; omega, ?_, (fun h => by cases h), fun _ => rfl⟩
      exact Nat.mod_eq_zero_of_dvd (Nat.dvd_sub (Nat.dvd_of_mod_eq_zero hok.aligned)
        (Nat.dvd_of_mod_eq_zero haligned))
    set first := writeBlock p m offset (headerOf ⟨true, needed, requested⟩) with hfirst
    set second := writeBlock p first (offset + needed) (headerOf (.free (b.span - needed)))
      with hsecond
    have hwrite : SameOutside m first offset p.headerBytes := sameOutside_writeBlock _ _ _ _
    have hwrite' : SameOutside first second (offset + needed) p.headerBytes :=
      sameOutside_writeBlock _ _ _ _
    have hfilled := sameOutside_filled p second offset requested
    have hread : readBlock p second offset = headerOf ⟨true, needed, requested⟩ := by
      rw [readBlock_apart hwrite' (.inl (by omega))]
      exact readBlock_writeBlock (hused.fits (by show needed ≤ _; omega))
    have hread' : readBlock p second (offset + needed) = headerOf (.free (b.span - needed)) :=
      readBlock_writeBlock (hrestOk.fits (by show b.span - needed ≤ _; omega))
    have hplace : place needed p.leastRest requested b =
        [⟨true, needed, requested⟩, .free (b.span - needed)] := if_neg hrest
    rw [husable, hplace]
    refine ⟨⟨⟨hused, stored_filled hused hread ?_⟩, laidOut_singleton.2 ⟨hrestOk, ?_⟩⟩, rfl, ?_,
      zero_filled _ _ _ _⟩
    · have hpayload : m.Zero (offset + p.headerBytes) (needed - p.headerBytes) :=
        hzero.part le_rfl (by omega)
      exact hpayload.congr fun i hi _ => (hwrite' i (by omega)).trans (hwrite i (.inr hi))
    · show Stored p _ (offset + needed) _
      refine ⟨?_, (fun h => by cases h), (fun h => by cases h), fun _ => ?_⟩
      · exact (readBlock_apart hfilled (.inr (by omega))).trans hread'
      · have hbehind : m.Zero (offset + needed + p.headerBytes)
            (b.span - needed - p.headerBytes) := hzero.part (by omega) (by omega)
        exact hbehind.congr fun i hi _ => (hfilled i (by omega)).trans
          ((hwrite' i (.inr hi)).trans (hwrite i (by omega)))
    · exact ((hwrite.widen le_rfl (by omega)).trans (hwrite'.widen (by omega) (by omega))).trans
        (hfilled.widen (by omega) (by omega))

end Using

/-! ### Releasing a block -/

section Releasing

variable {p : Platform} {m : Mem} {offset : ℕ} {b : Block}

/-- The block that is freed is a free block, zero behind its header. -/
theorem releasedBlock_stored (hok : BlockOk p b) (hstored : Stored p m offset b)
    (hused : b.used = true) (hsmall : b.span ≤ 0xFFFFFFFF) :
    LaidOut p (releasedBlock p m offset) offset [.free b.span] ∧
      SameOutside m (releasedBlock p m offset) offset b.span := by
  have hroom := hok.used hused
  have hfreed : BlockOk p (.free b.span) :=
    ⟨hok.header, hok.aligned, (fun h => by cases h), fun _ => rfl⟩
  set cleared := m.zero (offset + p.headerBytes) b.requested with hcleared
  set emptied := cleared.zero (offset + p.headerBytes + b.requested) tailBytes with hemptied
  have hreleased : releasedBlock p m offset =
      writeBlock p emptied offset (headerOf (.free b.span)) := by
    unfold releasedBlock
    rw [hstored.header]
    rfl
  have hfirst : SameOutside m cleared (offset + p.headerBytes) b.requested := SameOutside.zero
  have hsecond : SameOutside cleared emptied (offset + p.headerBytes + b.requested) tailBytes :=
    SameOutside.zero
  have hthird : SameOutside emptied (releasedBlock p m offset) offset p.headerBytes := by
    rw [hreleased]
    exact sameOutside_writeBlock _ _ _ _
  have hpayload : emptied.Zero (offset + p.headerBytes) b.requested :=
    Mem.Zero.of_zero.congr fun i _ hi' => hsecond i (.inl hi')
  have htail : emptied.Zero (offset + p.headerBytes + b.requested) tailBytes := Mem.Zero.of_zero
  have hslack : emptied.Zero (offset + p.headerBytes + (b.requested + tailBytes))
      (b.span - (p.headerBytes + b.requested + tailBytes)) :=
    ((hstored.slack hused).congr fun i hi _ =>
      (hsecond i (by omega)).trans (hfirst i (by omega))).part (by omega) (by omega)
  have hzero : emptied.Zero (offset + p.headerBytes) (b.span - p.headerBytes) :=
    ((hpayload.join htail).join hslack).part le_rfl (by omega)
  refine ⟨laidOut_singleton.2 ⟨hfreed, ?_⟩, ?_⟩
  · refine ⟨?_, (fun h => by cases h), (fun h => by cases h), fun _ => ?_⟩
    · rw [hreleased]
      exact readBlock_writeBlock (hfreed.fits hsmall)
    · exact hzero.congr fun i hi _ => hthird i (.inr hi)
  · exact ((hfirst.widen (by omega) (by omega)).trans (hsecond.widen (by omega) (by omega))).trans
      (hthird.widen le_rfl (by omega))

end Releasing

/-! ### Merging -/

section Merging

variable {p : Platform} {m : Mem} {a : TlsArena} {offset s t left : ℕ} {b : Block}
  {bs : List Block}

/-- A free block takes the free one behind it, whose header becomes zeros. -/
def merged (p : Platform) (m : Mem) (offset s t : ℕ) : Mem :=
  (writeBlock p m offset (headerOf (.free (s + t)))).zero (offset + s) p.headerBytes

theorem merged_laidOut (h : LaidOut p m offset (.free s :: .free t :: bs))
    (hsmall : s + t ≤ 0xFFFFFFFF) :
    LaidOut p (merged p m offset s t) offset (.free (s + t) :: bs) ∧
      SameOutside m (merged p m offset s t) offset (s + t) := by
  obtain ⟨⟨hok, hstored⟩, ⟨hok', hstored'⟩, hrest⟩ := h
  have hheader : p.headerBytes ≤ s := hok.header
  have hheader' : p.headerBytes ≤ t := hok'.header
  have hmerged : BlockOk p (.free (s + t)) := by
    refine ⟨hheader.trans (Nat.le_add_right _ _), ?_, (fun h => by cases h), fun _ => rfl⟩
    exact Nat.mod_eq_zero_of_dvd (Nat.dvd_add (Nat.dvd_of_mod_eq_zero hok.aligned)
      (Nat.dvd_of_mod_eq_zero hok'.aligned))
  set widened := writeBlock p m offset (headerOf (.free (s + t))) with hwidened
  have hdef : merged p m offset s t = widened.zero (offset + s) p.headerBytes := rfl
  set joined := merged p m offset s t with hjoined
  have hfirst : SameOutside m widened offset p.headerBytes := sameOutside_writeBlock _ _ _ _
  have hsecond : SameOutside widened joined (offset + s) p.headerBytes := by
    rw [hdef]
    exact SameOutside.zero
  have hsame : SameOutside m joined offset (s + t) :=
    (hfirst.widen le_rfl (by omega)).trans (hsecond.widen (by omega) (by omega))
  have hfree : m.Zero (offset + p.headerBytes) (s - p.headerBytes) := hstored.free rfl
  have hfree' : m.Zero (offset + s + p.headerBytes) (t - p.headerBytes) := hstored'.free rfl
  have hbefore : joined.Zero (offset + p.headerBytes) (s - p.headerBytes) :=
    hfree.congr fun i hi _ => (hsecond i (by omega)).trans (hfirst i (.inr hi))
  have hheaderZero : joined.Zero (offset + s) p.headerBytes := by
    rw [hdef]
    exact Mem.Zero.of_zero
  have hbetween : joined.Zero (offset + p.headerBytes + (s - p.headerBytes)) p.headerBytes :=
    hheaderZero.part (by omega) (by omega)
  have hbehind : joined.Zero (offset + p.headerBytes + (s - p.headerBytes + p.headerBytes))
      (t - p.headerBytes) :=
    (hfree'.congr fun i hi _ => (hsecond i (.inr hi)).trans (hfirst i (by omega))).part
      (by omega) (by omega)
  refine ⟨⟨⟨hmerged, ?_⟩, ?_⟩, hsame⟩
  · refine ⟨?_, (fun h => by cases h), (fun h => by cases h), fun _ => ?_⟩
    · rw [readBlock_apart hsecond (.inl (by omega))]
      exact readBlock_writeBlock (hmerged.fits hsmall)
    · show joined.Zero (offset + p.headerBytes) (s + t - p.headerBytes)
      exact ((hbefore.join hbetween).join hbehind).part le_rfl (by omega)
  · have hoffset : offset + s + t = offset + (s + t) := Nat.add_assoc _ _ _
    have hrest : LaidOut p m (offset + s + t) bs := hrest
    rw [hoffset] at hrest
    exact hrest.apart hsame (.inr le_rfl)

/-- A block that is not free takes nothing. -/
theorem absorbFree_used (h : (readBlock p a.region offset).state ≠ blockFree) (left : ℕ) :
    absorbFree p a offset left = (true, a) := by
  cases left with
  | zero => rfl
  | succ left => exact if_neg fun hfree => h hfree.1

/-- The last block has none behind it. -/
theorem absorbFree_last
    (h : a.capacityBytes ≤ offset + (readBlock p a.region offset).spanBytes) (left : ℕ) :
    absorbFree p a offset left = (true, a) := by
  cases left with
  | zero => rfl
  | succ left => exact if_neg fun hmore => absurd hmore.2 (Nat.not_lt.2 h)

theorem absorbFree_succ (hread : readBlock p a.region offset = headerOf (.free s))
    (hmore : offset + s < a.capacityBytes) (hvalid : blockValid p a (offset + s) = true) :
    absorbFree p a offset (left + 1) =
      if (readBlock p a.region (offset + s)).state ≠ blockFree then (true, a)
      else
        absorbFree p
          { a with
            region := merged p a.region offset s (readBlock p a.region (offset + s)).spanBytes }
          offset left := by
  have hcond : (headerOf (.free s)).state = blockFree ∧
      offset + (headerOf (.free s)).spanBytes < a.capacityBytes := ⟨rfl, hmore⟩
  have hnext : ¬blockValid p a (offset + (headerOf (.free s)).spanBytes) = false := by
    rw [Bool.not_eq_false]
    exact hvalid
  rw [absorbFree]
  simp only [hread]
  rw [if_pos hcond, if_neg hnext]
  rfl

/-- A free block takes all the free ones behind it. -/
theorem absorbFree_eq (hvalid : arenaHeaderValid p a = true) (hsmall : a.capacityBytes ≤ 0xFFFFFFFF)
    (hlaid : LaidOut p a.region offset (.free s :: bs))
    (hend : offset + (s + total bs) = a.capacityBytes) (hleft : bs.length ≤ left) :
    ∃ m' s' bs', absorbFree p a offset left = (true, { a with region := m' }) ∧
      LaidOut p m' offset (.free s' :: bs') ∧ SameOutside a.region m' offset (s + total bs) ∧
      s' + total bs' = s + total bs ∧ bs'.length ≤ bs.length ∧
      coalesce (.free s' :: bs') = coalesce (.free s :: bs) ∧ ∀ c ∈ bs'.head?, c.used = true := by
  induction bs generalizing a s left with
  | nil =>
    have hspan : (readBlock p a.region offset).spanBytes = s := by rw [hlaid.1.2.header]; rfl
    rw [total_nil] at hend
    exact ⟨a.region, s, [], absorbFree_last (by omega) left, hlaid, SameOutside.refl _ _ _, rfl,
      le_rfl, rfl, fun c hc => by cases hc⟩
  | cons b bs ih =>
    obtain ⟨left, rfl⟩ : ∃ n, left = n + 1 := ⟨left - 1, by rw [List.length_cons] at hleft; omega⟩
    obtain ⟨⟨hok, hstored⟩, ⟨hokb, hstoredb⟩, hrest⟩ := hlaid
    have hpos := hokb.span_pos
    have hreadb : readBlock p a.region (offset + s) = headerOf b := hstoredb.header
    rw [total_cons] at hend
    have hnext : blockValid p a (offset + s) = true :=
      Stored.valid hvalid hokb hreadb (by omega) hsmall
    rw [absorbFree_succ hstored.header (by omega) hnext, hreadb]
    cases hused : b.used with
    | true =>
      have hstate : (headerOf b).state ≠ blockFree := by
        simp only [headerOf, hused, if_true]
        decide
      rw [if_pos hstate]
      refine ⟨a.region, s, b :: bs, rfl, ⟨⟨hok, hstored⟩, ⟨hokb, hstoredb⟩, hrest⟩,
        SameOutside.refl _ _ _, rfl, le_rfl, rfl, fun c hc => ?_⟩
      obtain rfl : b = c := Option.some.inj hc
      exact hused
    | false =>
      obtain ⟨t, rfl⟩ := hokb.eq_free hused
      rw [if_neg (fun hstate => hstate rfl)]
      change offset + (s + (t + total bs)) = a.capacityBytes at hend
      rw [List.length_cons] at hleft
      have hlaid : LaidOut p a.region offset (.free s :: .free t :: bs) :=
        ⟨⟨hok, hstored⟩, ⟨hokb, hstoredb⟩, hrest⟩
      obtain ⟨hmerged, hsame⟩ := merged_laidOut hlaid (by omega)
      have hend' : offset + (s + t + total bs) = a.capacityBytes := by omega
      obtain ⟨m', s', bs', hrun, hlaid', hsame', htotal, hlength, hcoalesce, hhead⟩ :=
        ih (a := { a with region := merged p a.region offset s t }) (s := s + t) hvalid hsmall
          hmerged hend' (Nat.le_of_succ_le_succ hleft)
      have htotals : s + total (.free t :: bs) = s + t + total bs := (Nat.add_assoc _ _ _).symm
      rw [htotals]
      refine ⟨m', s', bs', hrun, hlaid', ?_, htotal, ?_, ?_, hhead⟩
      · exact (hsame.widen le_rfl (by omega)).trans hsame'
      · exact hlength.trans (Nat.le_succ _)
      · rw [hcoalesce]
        exact (coalesce_merge _ _ _).symm

end Merging

end Ninlil.Wifi
