import Ninlil.Wifi.ArenaLoops

/-!
# Runs of the TLS arena

* `Inv`: the blocks tile the region, no two free ones are neighbours, and the counters and the
  payloads that the owner holds are those of the used blocks;
* `Inv.calloc`, `Inv.free`, `Inv.write`: each call keeps it;
* `arena_run_sound`: what follows in every world of a run.
-/

namespace Ninlil.Wifi

open Bytes Memory Arena

/-! ### Payloads -/

/-- The payloads of the used blocks: where each starts, and its length. -/
def payloadsFrom (p : Platform) (base offset : ℕ) (bs : List Block) : List (ℕ × ℕ) :=
  (usedAt offset bs).map fun x => (base + x.1 + p.headerBytes, x.2.requested)

section Payloads

variable {p : Platform} {m : Mem} {base offset o : ℕ} {b d : Block} {bs cs pre post : List Block}

/-- A used block stands within the bytes of the blocks. -/
theorem usedAt_bounds (h : (o, d) ∈ usedAt offset bs) :
    offset ≤ o ∧ o + d.span ≤ offset + total bs := by
  obtain ⟨-, pre, post, rfl, rfl⟩ := mem_usedAt.1 h
  rw [total_append, total_cons]
  omega

theorem payloadsFrom_append (base offset : ℕ) (bs cs : List Block) :
    payloadsFrom p base offset (bs ++ cs) =
      payloadsFrom p base offset bs ++ payloadsFrom p base (offset + total bs) cs := by
  unfold payloadsFrom
  rw [usedAt_append, List.map_append]

theorem payloadsFrom_used (h : b.used = true) (base offset : ℕ) (bs : List Block) :
    payloadsFrom p base offset (b :: bs) =
      (base + offset + p.headerBytes, b.requested) :: payloadsFrom p base (offset + b.span) bs := by
  unfold payloadsFrom
  rw [usedAt_used h, List.map_cons]

theorem payloadsFrom_free (h : b.used = false) (base offset : ℕ) (bs : List Block) :
    payloadsFrom p base offset (b :: bs) = payloadsFrom p base (offset + b.span) bs := by
  unfold payloadsFrom
  rw [usedAt_free h]

theorem payloadsFrom_coalesce (base offset : ℕ) (bs : List Block) :
    payloadsFrom p base offset (coalesce bs) = payloadsFrom p base offset bs := by
  unfold payloadsFrom
  rw [usedAt_coalesce]

/-- A payload is that of a used block. -/
theorem mem_payloadsFrom {x : ℕ × ℕ} : x ∈ payloadsFrom p base offset bs ↔
    ∃ o d, (o, d) ∈ usedAt offset bs ∧ x = (base + o + p.headerBytes, d.requested) := by
  unfold payloadsFrom
  rw [List.mem_map]
  constructor
  · rintro ⟨⟨o, d⟩, hmem, rfl⟩
    exact ⟨o, d, hmem, rfl⟩
  · rintro ⟨o, d, hmem, rfl⟩
    exact ⟨(o, d), hmem, rfl⟩

/-- A payload is known by where it starts. -/
theorem payloadsFrom_ne (hlaid : LaidOut p m offset (pre ++ b :: post)) :
    (∀ x ∈ payloadsFrom p base offset pre, x.1 ≠ base + (offset + total pre) + p.headerBytes) ∧
      ∀ x ∈ payloadsFrom p base (offset + total pre + b.span) post,
        x.1 ≠ base + (offset + total pre) + p.headerBytes := by
  obtain ⟨hpre, ⟨hok, -⟩, -⟩ := (laidOut_mid _ _ _ _).1 hlaid
  have hpos := hok.span_pos
  refine ⟨fun x hx => ?_, fun x hx => ?_⟩
  · obtain ⟨o, d, hmem, rfl⟩ := mem_payloadsFrom.1 hx
    obtain ⟨-, front, back, hpre', -⟩ := mem_usedAt.1 hmem
    have hd := hpre.ok d (by rw [hpre']; simp)
    have hbounds := (usedAt_bounds hmem).2
    have hdpos := hd.span_pos
    show base + o + p.headerBytes ≠ _
    omega
  · obtain ⟨o, d, hmem, rfl⟩ := mem_payloadsFrom.1 hx
    have hbounds := (usedAt_bounds hmem).1
    show base + o + p.headerBytes ≠ _
    omega

/-- The used block that a payload belongs to, between those before and behind it. -/
theorem exists_of_mem_payloads {x : ℕ × ℕ} (h : x ∈ payloadsFrom p base 0 bs) :
    ∃ pre b post, bs = pre ++ b :: post ∧ b.used = true ∧
      x = (base + total pre + p.headerBytes, b.requested) := by
  obtain ⟨o, d, hmem, rfl⟩ := mem_payloadsFrom.1 h
  obtain ⟨hused, pre, post, hbs, ho⟩ := mem_usedAt.1 hmem
  rw [Nat.zero_add] at ho
  exact ⟨pre, d, post, hbs, hused, by rw [ho]⟩

theorem usedCount_le (bs : List Block) : usedCount bs ≤ bs.length := List.countP_le_length

end Payloads

/-! ### The invariant -/

/-- The blocks of a world, with the counters and the payloads that go with them. -/
structure Inv (p : Platform) (w : World) (blocks : List Block) : Prop where
  walk : Walk p w.arena 0 blocks
  separated : Separated blocks
  current : w.arena.currentBytes = usedBytes blocks
  outstanding : w.arena.outstandingAllocations.toNat = usedCount blocks
  live : w.live.Perm (payloadsFrom p w.arena.base 0 blocks)

section Calls

variable {p : Platform} {w : World} {a : TlsArena} {blocks : List Block}

theorem arenaHeaderValid_iff : arenaHeaderValid p a = true ↔ a.magic = arenaMagic ∧ a.base ≠ 0 ∧
    p.headerBytes ≤ a.capacityBytes ∧ a.base % p.alignment = 0 ∧
      a.capacityBytes % p.alignment = 0 := by
  simp only [arenaHeaderValid, Bool.and_eq_true, beq_iff_eq, bne_iff_ne, decide_eq_true_eq,
    and_assoc]

/-- An initialized arena is one free block. -/
theorem Inv.init {memory : Mem} {region regionBytes : ℕ}
    (h : arenaInit p memory region regionBytes = some a) :
    Inv p { arena := a } [.free a.capacityBytes] := by
  unfold arenaInit at h
  simp only at h
  split_ifs at h with hregion hbounds
  obtain ⟨hnull, haligned⟩ := not_or.1 hregion
  obtain ⟨hleast, hsmall⟩ := not_or.1 hbounds
  set usable := regionBytes - (regionBytes &&& (p.alignment - 1)) with husable
  have hmask : regionBytes &&& (p.alignment - 1) = regionBytes % p.alignment := by
    obtain ⟨k, hk⟩ := p.power
    rw [hk, Nat.and_two_pow_sub_one_eq_mod]
  have hmod : usable % p.alignment = 0 := by
    rw [husable, hmask]
    exact Nat.mod_eq_zero_of_dvd (Nat.dvd_sub_mod _)
  have hok : BlockOk p (.free usable) :=
    ⟨by show p.headerBytes ≤ usable; omega, hmod, (fun h => by cases h), fun _ => rfl⟩
  obtain rfl := (Option.some.inj h).symm
  have hwrite := sameOutside_writeBlock p (memory.zero 0 usable) 0 (headerOf (.free usable))
  refine ⟨⟨?_, Nat.not_lt.1 hsmall, laidOut_singleton.2 ⟨hok, ?_⟩, ?_⟩, List.isChain_singleton _,
    rfl, rfl, List.Perm.refl _⟩
  · refine arenaHeaderValid_iff.2 ⟨rfl, hnull, ?_, not_not.1 haligned, hmod⟩
    show p.headerBytes ≤ usable
    omega
  · refine ⟨?_, (fun h => by cases h), (fun h => by cases h), fun _ => ?_⟩
    · exact readBlock_writeBlock (hok.fits (Nat.not_lt.1 hsmall))
    · have hzero : (memory.zero 0 usable).Zero (0 + p.headerBytes) (usable - p.headerBytes) :=
        Mem.Zero.of_zero.part (Nat.zero_le _) (by omega)
      exact hzero.congr fun i hi _ => hwrite i (.inr hi)
  · show 0 + (usable + 0) = usable
    omega

/-- A change of the other fields keeps the blocks. -/
theorem Walk.fields (h : Walk p a 0 blocks) (a' : TlsArena) (hbase : a'.base = a.base)
    (hcapacity : a'.capacityBytes = a.capacityBytes) (hmagic : a'.magic = a.magic)
    {blocks' : List Block} (hlaid : LaidOut p a'.region 0 blocks')
    (htotal : total blocks' = total blocks) : Walk p a' 0 blocks' := by
  have hvalid := h.valid
  refine ⟨?_, by rw [hcapacity]; exact h.small, hlaid, ?_⟩
  · rw [arenaHeaderValid, hmagic, hbase, hcapacity]
    exact hvalid
  · rw [htotal, hcapacity]
    exact h.reaches

/-! ### Allocation -/

variable {pre post : List Block} {b : Block} {requested needed : ℕ}

theorem usedCount_place (need least requested : ℕ) (b : Block) :
    usedCount (place need least requested b) = 1 := by
  unfold place
  split_ifs <;> rfl

theorem payloadsFrom_place (base offset need least requested : ℕ) (b : Block) :
    payloadsFrom p base offset (place need least requested b) =
      [(base + offset + p.headerBytes, requested)] := by
  unfold place
  split_ifs <;> rfl

/-- The world after the block at the end of `pre` was chosen. -/
theorem Inv.allocate (h : Inv p w (pre ++ b :: post)) (hfits : b.fits needed = true)
    (hneed : neededBytes p requested = some needed) (attempts : ℕ) :
    Inv p
      { arena := (allocateBlock p { w.arena with allocationAttempts := attempts } (total pre)
          requested needed).2
        live := (w.arena.base + total pre + p.headerBytes, requested) :: w.live }
      (pre ++ (place needed p.leastRest requested b ++ post)) := by
  obtain ⟨hfree, hspace⟩ := Block.fits_iff.1 hfits
  obtain ⟨-, ⟨hok, hstored⟩, -⟩ := (laidOut_mid _ _ _ _).1 h.walk.laid
  rw [Nat.zero_add] at hstored
  have hreaches := h.walk.reaches
  have hcap := h.walk.small
  rw [total_append, total_cons] at hreaches
  obtain ⟨hlaid, hbytes, hsame, -⟩ :=
    usableBlock_laidOut hok hstored hfree (by omega) hneed hspace
  have hplace : total (place needed p.leastRest requested b) = b.span := total_place hspace
  have hreplace := LaidOut.replace h.walk.laid (by rw [Nat.zero_add]; exact hsame) hplace
    (by rw [Nat.zero_add]; exact hlaid)
  have htotal : total (pre ++ (place needed p.leastRest requested b ++ post)) =
      total (pre ++ b :: post) := by
    rw [total_append, total_append, hplace, total_append, total_cons]
  have hwalk := h.walk.fields (allocateBlock p { w.arena with allocationAttempts := attempts }
    (total pre) requested needed).2 rfl rfl rfl hreplace htotal
  refine ⟨hwalk, h.separated.place hfree, ?_, ?_, ?_⟩
  · show w.arena.currentBytes + (usableBlock p w.arena.region (total pre) requested needed).2 = _
    rw [h.current, hbytes, usedBytes_append, usedBytes_append, usedBytes_append,
      usedBytes_free hfree]
    omega
  · have hcount : usedCount (pre ++ (place needed p.leastRest requested b ++ post)) =
        usedCount (pre ++ b :: post) + 1 := by
      rw [usedCount_append, usedCount_append, usedCount_append, usedCount_place,
        usedCount_free hfree]
      omega
    have hfew := (usedCount_le _).trans hwalk.length_le
    have hfew : usedCount (pre ++ (place needed p.leastRest requested b ++ post)) ≤
        w.arena.capacityBytes := hfew
    show (w.arena.outstandingAllocations + 1).toNat = _
    rw [UInt32.toNat_add, h.outstanding, hcount]
    exact Nat.mod_eq_of_lt (by show usedCount (pre ++ b :: post) + 1 < 2 ^ 32; omega)
  · have hlive := h.live
    rw [payloadsFrom_append, payloadsFrom_free hfree, Nat.zero_add] at hlive
    show List.Perm _ (payloadsFrom p w.arena.base 0 _)
    rw [payloadsFrom_append, payloadsFrom_append, payloadsFrom_place, hplace, Nat.zero_add]
    exact (hlive.cons _).trans List.perm_middle.symm

/-- A call of `calloc` uses the first block that fits, or leaves the blocks as they are. -/
theorem arenaCalloc_cases (h : Walk p a 0 blocks) (count elementBytes : ℕ) :
    (∃ pre b post needed, blocks = pre ++ b :: post ∧ b.fits needed = true ∧
      neededBytes p (count * elementBytes) = some needed ∧
      arenaCalloc p a count elementBytes =
        allocateBlock p { a with
          allocationAttempts := (a.allocationAttempts + 1) % (p.sizeMax + 1) } (total pre)
          (count * elementBytes) needed) ∨
    (∃ attempts oom, arenaCalloc p a count elementBytes =
        (0, { a with allocationAttempts := attempts, oomCount := oom }) ∧
      ∀ requested needed, mulSize p count elementBytes = some requested → requested ≠ 0 →
        neededBytes p requested = some needed → a.allocationAttempts < a.failAfterAttempt →
          ∀ b ∈ blocks, b.fits needed = false) := by
  have hmagic := (arenaHeaderValid_iff.1 h.valid).1
  by_cases hbad : arenaHeaderValid p a = false ∨ (mulSize p count elementBytes).getD 0 = 0 ∨
      neededBytes p ((mulSize p count elementBytes).getD 0) = none
  · refine .inr ⟨a.allocationAttempts, a.oomCount + 1, ?_, ?_⟩
    · rw [arenaCalloc, if_pos hbad, if_pos hmagic]
    · intro requested needed hmul hne hneed _
      rw [hmul, Option.getD_some, h.valid, hneed] at hbad
      rcases hbad with hbad | hbad | hbad
      · cases hbad
      · exact absurd hbad hne
      · cases hbad
  · obtain ⟨-, hne, hneed⟩ : _ ∧ (mulSize p count elementBytes).getD 0 ≠ 0 ∧
        neededBytes p ((mulSize p count elementBytes).getD 0) ≠ none := by
      simpa only [not_or] using hbad
    obtain ⟨requested, hmul⟩ : ∃ n, mulSize p count elementBytes = some n := by
      cases hmul : mulSize p count elementBytes with
      | none => exact absurd (by rw [hmul]; rfl) hne
      | some n => exact ⟨n, rfl⟩
    have hrequested : requested = count * elementBytes := by
      unfold mulSize at hmul
      split_ifs at hmul
      exact (Option.some.inj hmul).symm
    rw [hmul, Option.getD_some] at hne hneed hbad
    obtain ⟨needed, hneeded⟩ := Option.ne_none_iff_exists'.1 hneed
    by_cases hlimit : a.failAfterAttempt ≤ a.allocationAttempts
    · refine .inr ⟨(a.allocationAttempts + 1) % (p.sizeMax + 1), a.oomCount + 1, ?_,
        fun _ _ _ _ _ hbelow => absurd hlimit (Nat.not_le.2 hbelow)⟩
      rw [arenaCalloc, hmul, Option.getD_some, if_neg hbad, if_pos hlimit]
    · set attempts := (a.allocationAttempts + 1) % (p.sizeMax + 1) with hattempts
      have hcall : arenaCalloc p a count elementBytes =
          callocLoop p { a with allocationAttempts := attempts } requested needed
            a.capacityBytes 0 := by
        rw [arenaCalloc, hmul, Option.getD_some, if_neg hbad, if_neg hlimit, hneeded,
          Option.getD_some]
      have hwalk : Walk p { a with allocationAttempts := attempts } 0 blocks :=
        h.fields { a with allocationAttempts := attempts } rfl rfl rfl h.laid rfl
      have hlength : blocks.length ≤ a.capacityBytes := h.length_le
      rcases callocLoop_cases hwalk hlength with ⟨pre, b, post, hblocks, hfits, hrun⟩ | ⟨hnone, hrun⟩
      · rw [Nat.zero_add] at hrun
        exact .inl ⟨pre, b, post, needed, hblocks, hfits, hrequested ▸ hneeded,
          by rw [hcall, hrun, hrequested]⟩
      · refine .inr ⟨attempts, a.oomCount + 1, hcall.trans hrun, ?_⟩
        intro requested' needed' hmul' _ hneeded' _
        obtain rfl := Option.some.inj (hmul.symm.trans hmul')
        obtain rfl := Option.some.inj (hneeded.symm.trans hneeded')
        exact hnone

/-- A call of `calloc` keeps the invariant. -/
theorem Inv.calloc (h : Inv p w blocks) (count elementBytes : ℕ) :
    ∃ blocks', Inv p (w.call p (.calloc count elementBytes)) blocks' := by
  rcases arenaCalloc_cases h.walk count elementBytes with
    ⟨pre, b, post, needed, rfl, hfits, hneed, hcall⟩ | ⟨attempts, oom, hcall, -⟩
  · refine ⟨pre ++ (place needed p.leastRest (count * elementBytes) b ++ post), ?_⟩
    have hbase := (arenaHeaderValid_iff.1 h.walk.valid).2.1
    have hne : w.arena.base + total pre + p.headerBytes ≠ 0 := by omega
    have hpointer : (arenaCalloc p w.arena count elementBytes).1 =
        w.arena.base + total pre + p.headerBytes := by
      rw [hcall]
      rfl
    unfold World.call
    simp only [hpointer, if_neg hne]
    rw [hcall]
    exact h.allocate hfits hneed _
  · refine ⟨blocks, ?_⟩
    unfold World.call
    simp only [hcall, if_true]
    have hwalk := h.walk.fields
      { w.arena with allocationAttempts := attempts, oomCount := oom } rfl rfl rfl h.walk.laid rfl
    exact ⟨hwalk, h.separated, h.current, h.outstanding, h.live⟩

/-! ### Release -/

/-- The block of a live payload is freed, and merged with the free ones beside it. -/
theorem Inv.release (h : Inv p w (pre ++ b :: post)) (hused : b.used = true) :
    ∃ a', freeBlock p w.arena (total pre) = (.ok, a') ∧
      ∀ live : List (ℕ × ℕ),
        live.Perm (payloadsFrom p w.arena.base 0 pre ++
          payloadsFrom p w.arena.base (total pre + b.span) post) →
        Inv p { arena := a', live } (coalesce (pre ++ .free b.span :: post)) := by
  obtain ⟨-, ⟨hok, hstored⟩, -⟩ := (laidOut_mid _ _ _ _).1 h.walk.laid
  rw [Nat.zero_add] at hstored
  have hreaches := h.walk.reaches
  have hcap := h.walk.small
  rw [total_append, total_cons] at hreaches
  obtain ⟨hlaid, hsame⟩ := releasedBlock_stored hok hstored hused (by omega)
  have hreplace : LaidOut p (releasedBlock p w.arena.region (total pre)) 0
      (pre ++ ([.free b.span] ++ post)) :=
    LaidOut.replace h.walk.laid (by rw [Nat.zero_add]; exact hsame) rfl
      (by rw [Nat.zero_add]; exact hlaid)
  have htotal : total (pre ++ ([.free b.span] ++ post)) = total (pre ++ b :: post) := by
    rw [total_append, total_append, total_append]
    rfl
  set a := { w.arena with
    region := releasedBlock p w.arena.region (total pre)
    currentBytes := w.arena.currentBytes - b.span
    outstandingAllocations := w.arena.outstandingAllocations - 1 } with ha
  have hwalk : Walk p a 0 (pre ++ .free b.span :: post) :=
    h.walk.fields a rfl rfl rfl hreplace htotal
  have hlength : (pre ++ .free b.span :: post).length ≤ a.capacityBytes := hwalk.length_le
  obtain ⟨m', hmerge, hlaid', -⟩ := coalesceFreeBlocks_eq hwalk hlength
  have hcount : usedCount (pre ++ b :: post) = usedCount (pre ++ .free b.span :: post) + 1 := by
    have hfree : usedCount (.free b.span :: post) = usedCount post := usedCount_free rfl post
    rw [usedCount_append, usedCount_append, usedCount_used hused, hfree, Nat.add_assoc]
  have hbytes : usedBytes (pre ++ b :: post) = usedBytes (pre ++ .free b.span :: post) + b.span := by
    have hfree : usedBytes (.free b.span :: post) = usedBytes post := usedBytes_free rfl post
    rw [usedBytes_append, usedBytes_append, usedBytes_used hused, hfree]
    omega
  have houtstanding := h.outstanding
  have hcurrent := h.current
  have hsome : w.arena.outstandingAllocations ≠ 0 := by
    intro hzero
    rw [hzero, hcount] at houtstanding
    exact absurd houtstanding.symm (Nat.succ_ne_zero _)
  refine ⟨{ a with region := m' }, ?_, fun live hlive => ⟨?_, separated_coalesce _, ?_, ?_, ?_⟩⟩
  · have hstate : ¬(headerOf b).state = blockFree := by
      rw [headerOf_used hused]
      decide
    have htail : ¬readTail w.arena.region (total pre + p.headerBytes) (headerOf b).requestedBytes ≠
        tailCanary := not_not.2 (hstored.tail hused)
    have henough : ¬(w.arena.outstandingAllocations = 0 ∨
        w.arena.currentBytes < (headerOf b).spanBytes) := by
      rintro (hzero | hless)
      · exact hsome hzero
      · have hspan : (headerOf b).spanBytes = b.span := rfl
        omega
    unfold freeBlock
    simp only [hstored.header]
    rw [if_neg hstate, if_neg htail, if_neg henough]
    have hmerged : ∀ arena, arena = a →
        coalesceFreeBlocks p arena w.arena.capacityBytes 0 = (true, { a with region := m' }) := by
      rintro _ rfl
      exact hmerge
    rw [hmerged]
    rfl
  · exact hwalk.fields { a with region := m' } rfl rfl rfl hlaid' (total_coalesce _)
  · show w.arena.currentBytes - b.span = _
    rw [usedBytes_coalesce]
    omega
  · show (w.arena.outstandingAllocations - 1).toNat = _
    rw [usedCount_coalesce]
    have hone : (1 : UInt32) ≤ w.arena.outstandingAllocations := by
      rw [UInt32.le_iff_toNat_le, houtstanding, hcount]
      exact Nat.le_add_left _ _
    rw [UInt32.toNat_sub_of_le _ _ hone, houtstanding, hcount]
    exact Nat.add_sub_cancel (n := usedCount (pre ++ .free b.span :: post)) (m := 1)
  · show live.Perm (payloadsFrom p w.arena.base 0 _)
    rw [payloadsFrom_coalesce, payloadsFrom_append, Nat.zero_add,
      payloadsFrom_free (b := .free b.span) rfl]
    exact hlive

/-- A call of `free` on a live payload frees it. -/
theorem Inv.free_live (h : Inv p w blocks) {x : ℕ × ℕ} (hx : x ∈ w.live) :
    (arenaFree p w.arena x.1).1 = .ok ∧
      ∃ blocks', Inv p (w.call p (.free x.1)) blocks' := by
  obtain ⟨pre, b, post, rfl, hused, rfl⟩ := exists_of_mem_payloads (h.live.mem_iff.1 hx)
  have hbase := (arenaHeaderValid_iff.1 h.walk.valid).2.1
  have hne : w.arena.base + total pre + p.headerBytes ≠ 0 := by omega
  have hlength : (pre ++ b :: post).length ≤ w.arena.capacityBytes := h.walk.length_le
  have hrun : freeLoop p w.arena (w.arena.base + total pre + p.headerBytes)
      w.arena.capacityBytes 0 = freeBlock p w.arena (total pre) := by
    rcases freeLoop_cases h.walk hlength (w.arena.base + total pre + p.headerBytes) with
      ⟨pre', c, post', heq, hpointer, hrun⟩ | ⟨hnone, -⟩
    · rw [Nat.zero_add] at hpointer hrun
      have htotal : total pre' = total pre := by omega
      rw [hrun, htotal]
    · exact absurd (by rw [Nat.zero_add]) (hnone pre b post rfl)
  have hcall : arenaFree p w.arena (w.arena.base + total pre + p.headerBytes) =
      freeBlock p w.arena (total pre) := by
    rw [arenaFree, if_neg hne, if_neg (by rw [h.walk.valid]; decide), hrun]
  obtain ⟨a', hfree, hinv⟩ := h.release hused
  refine ⟨by rw [hcall, hfree], coalesce (pre ++ .free b.span :: post), ?_⟩
  unfold World.call
  simp only [hcall, hfree]
  refine hinv _ ((h.live.filter _).trans ?_)
  obtain ⟨hbefore, hbehind⟩ := @payloadsFrom_ne _ _ w.arena.base _ _ _ _ h.walk.laid
  rw [Nat.zero_add] at hbefore hbehind
  rw [payloadsFrom_append, Nat.zero_add, payloadsFrom_used hused, List.filter_append,
    List.filter_cons_of_neg (by simp),
    List.filter_eq_self.2 fun x hx => bne_iff_ne.2 (hbefore x hx),
    List.filter_eq_self.2 fun x hx => bne_iff_ne.2 (hbehind x hx)]

/-- A call of `free` on any other pointer is counted, and changes nothing else. -/
theorem Inv.free_other (h : Inv p w blocks) {pointer : ℕ} (hother : ∀ x ∈ w.live, x.1 ≠ pointer) :
    (arenaFree p w.arena pointer).2 =
      if pointer = 0 then w.arena
      else { w.arena with corruptionCount := w.arena.corruptionCount + 1 } := by
  unfold arenaFree
  by_cases hnull : pointer = 0
  · rw [if_pos hnull, if_pos hnull]
  · rw [if_neg hnull, if_neg hnull, if_neg (by rw [h.walk.valid]; decide)]
    rcases freeLoop_cases h.walk h.walk.length_le pointer with
      ⟨pre, b, post, rfl, hpointer, hrun⟩ | ⟨-, hrun⟩
    · rw [Nat.zero_add] at hpointer hrun
      obtain ⟨-, ⟨hok, hstored⟩, -⟩ := (laidOut_mid _ _ _ _).1 h.walk.laid
      rw [Nat.zero_add] at hstored
      cases hused : b.used with
      | true =>
        have hmem : (w.arena.base + total pre + p.headerBytes, b.requested) ∈ w.live := by
          rw [h.live.mem_iff, payloadsFrom_append, Nat.zero_add, payloadsFrom_used hused]
          exact List.mem_append_right _ List.mem_cons_self
        exact absurd hpointer (hother _ hmem)
      | false =>
        have hstate : (readBlock p w.arena.region (total pre)).state = blockFree := by
          rw [hstored.header, headerOf_free hused]
        rw [hrun, freeBlock, if_pos hstate]
    · rw [hrun]

/-- A call of `free` keeps the invariant. -/
theorem Inv.free (h : Inv p w blocks) (pointer : ℕ) :
    ∃ blocks', Inv p (w.call p (.free pointer)) blocks' := by
  by_cases hlive : ∃ x ∈ w.live, x.1 = pointer
  · obtain ⟨x, hx, rfl⟩ := hlive
    exact (h.free_live hx).2
  · have hother : ∀ x ∈ w.live, x.1 ≠ pointer := fun x hx heq => hlive ⟨x, hx, heq⟩
    have hsame := h.free_other hother
    have hfilter : (w.live.filter fun x => x.1 != pointer) = w.live :=
      List.filter_eq_self.2 fun x hx => bne_iff_ne.2 (hother x hx)
    refine ⟨blocks, ?_⟩
    unfold World.call
    simp only [hsame, hfilter]
    split_ifs
    · exact h
    · have hwalk := h.walk.fields
        { w.arena with corruptionCount := w.arena.corruptionCount + 1 } rfl rfl rfl h.walk.laid rfl
      exact ⟨hwalk, h.separated, h.current, h.outstanding, h.live⟩

/-! ### The owner's writes -/

/-- What the owner writes into a payload is not what the allocator keeps there. -/
theorem Stored.payload {m m' : Mem} {offset : ℕ} (h : Stored p m offset b)
    (hused : b.used = true) (hsame : SameOutside m m' (offset + p.headerBytes) b.requested) :
    Stored p m' offset b := by
  refine ⟨?_, fun _ => ?_, fun _ => ?_, fun hfree => ?_⟩
  · rw [readBlock_apart hsame (.inl le_rfl), h.header]
  · rw [← h.tail hused]
    unfold readTail
    rw [Mem.read_congr fun i hi _ => hsame i (.inr hi)]
  · exact (h.slack hused).congr fun i hi _ => hsame i (by omega)
  · rw [hused] at hfree
    cases hfree

/-- A byte that is written into a live payload keeps the invariant. -/
theorem Inv.write (h : Inv p w blocks) (pointer index : ℕ) (byte : UInt8) :
    Inv p (w.call p (.write pointer index byte)) blocks := by
  unfold World.call
  by_cases hlive : (w.live.any fun x => x.1 == pointer && decide (index < x.2)) = true
  · simp only [hlive, if_true]
    obtain ⟨x, hx, hcond⟩ := List.any_eq_true.1 hlive
    obtain ⟨hpointer, hindex⟩ : x.1 = pointer ∧ index < x.2 := by simpa using hcond
    obtain ⟨pre, b, post, rfl, hused, rfl⟩ := exists_of_mem_payloads (h.live.mem_iff.1 hx)
    change index < b.requested at hindex
    change w.arena.base + total pre + p.headerBytes = pointer at hpointer
    obtain ⟨-, ⟨hok, hstored⟩, -⟩ := (laidOut_mid _ _ _ _).1 h.walk.laid
    rw [Nat.zero_add] at hstored
    have hroom := hok.used hused
    have hoffset : pointer + index - w.arena.base = total pre + p.headerBytes + index := by omega
    rw [hoffset]
    set m' := w.arena.region.write (total pre + p.headerBytes + index) [byte] with hm'
    have hbyte : SameOutside w.arena.region m' (total pre + p.headerBytes + index) 1 :=
      SameOutside.write le_rfl
    have hsame : SameOutside w.arena.region m' (total pre + p.headerBytes) b.requested :=
      hbyte.widen (by omega) (by omega)
    have hblock : LaidOut p m' (0 + total pre) [b] := by
      rw [Nat.zero_add]
      exact laidOut_singleton.2 ⟨hok, hstored.payload hused hsame⟩
    have hlaid : LaidOut p m' 0 (pre ++ ([b] ++ post)) := by
      refine LaidOut.replace h.walk.laid ?_ rfl hblock
      rw [Nat.zero_add]
      exact hsame.widen (by omega) (by omega)
    have hwalk := h.walk.fields { w.arena with region := m' } rfl rfl rfl hlaid rfl
    exact ⟨hwalk, h.separated, h.current, h.outstanding, h.live⟩
  · simp only [if_neg hlive]
    exact h

theorem Inv.setFailAfter (h : Inv p w blocks) (successfulAttempts : ℕ) :
    Inv p (w.call p (.setFailAfter successfulAttempts)) blocks := by
  have hcall : w.call p (.setFailAfter successfulAttempts) =
      { w with arena := { w.arena with
        allocationAttempts := 0, failAfterAttempt := successfulAttempts } } := by
    simp only [World.call, arenaSetFailAfter, if_pos h.walk.valid]
  rw [hcall]
  have hwalk := h.walk.fields { w.arena with
    allocationAttempts := 0, failAfterAttempt := successfulAttempts } rfl rfl rfl h.walk.laid rfl
  exact ⟨hwalk, h.separated, h.current, h.outstanding, h.live⟩

/-! ### Runs -/

/-- Every call keeps the invariant, with blocks of its own. -/
theorem Inv.call (h : Inv p w blocks) (c : ArenaCall) : ∃ blocks', Inv p (w.call p c) blocks' := by
  cases c with
  | calloc count elementBytes => exact h.calloc count elementBytes
  | free pointer => exact h.free pointer
  | setFailAfter successfulAttempts => exact ⟨blocks, h.setFailAfter successfulAttempts⟩
  | write pointer index byte => exact ⟨blocks, h.write pointer index byte⟩

/-- So does a run. -/
theorem Inv.run (h : Inv p w blocks) (calls : List ArenaCall) :
    ∃ blocks', Inv p (calls.foldl (World.call p) w) blocks' := by
  induction calls generalizing w blocks with
  | nil => exact ⟨blocks, h⟩
  | cons c calls ih =>
    obtain ⟨blocks', h'⟩ := h.call c
    exact ih h'

/-! ### What the invariant says -/

/-- Payloads with their canaries, each before the next. -/
theorem payloadsFrom_pairwise {m : Mem} {offset : ℕ} (base : ℕ) (h : LaidOut p m offset blocks) :
    (payloadsFrom p base offset blocks).Pairwise fun x y => x.1 + x.2 + tailBytes ≤ y.1 := by
  induction blocks generalizing offset with
  | nil => exact List.Pairwise.nil
  | cons b bs ih =>
    cases hused : b.used with
    | true =>
      rw [payloadsFrom_used hused]
      refine List.pairwise_cons.2 ⟨fun y hy => ?_, ih h.2⟩
      obtain ⟨o, d, hmem, rfl⟩ := mem_payloadsFrom.1 hy
      have hbounds := (usedAt_bounds hmem).1
      have hroom := h.1.1.used hused
      show base + offset + p.headerBytes + b.requested + tailBytes ≤ base + o + p.headerBytes
      omega
    | false =>
      rw [payloadsFrom_free hused]
      exact ih h.2

/-- The blocks of a world, and what its calls do there. -/
structure ArenaSound (p : Platform) (w : World) (blocks : List Block) : Prop where
  /-- The blocks stand in the region, one after the other, up to its end. -/
  laid : LaidOut p w.arena.region 0 blocks
  tiles : total blocks = w.arena.capacityBytes
  aligned : ∀ b ∈ blocks, p.headerBytes ≤ b.span ∧ b.span % p.alignment = 0
  separated : Separated blocks
  current : w.arena.currentBytes = usedBytes blocks
  outstanding : w.arena.outstandingAllocations.toNat = usedCount blocks
  /-- A live payload is that of a used block, which holds it with its canary. -/
  owned : ∀ x ∈ w.live, ∃ o d, (o, d) ∈ usedAt 0 blocks ∧
    x = (w.arena.base + o + p.headerBytes, d.requested) ∧
    p.headerBytes + d.requested + tailBytes ≤ d.span ∧
    readTail w.arena.region (o + p.headerBytes) d.requested = tailCanary
  disjoint : w.live.Pairwise fun x y => x.1 + x.2 + tailBytes ≤ y.1 ∨ y.1 + y.2 + tailBytes ≤ x.1
  zero : ∀ pre b post, blocks = pre ++ b :: post → b.used = false →
    w.arena.region.Zero (total pre + p.headerBytes) (b.span - p.headerBytes)
  intact : w.arena.magic = arenaMagic
  calloc : ∀ count elementBytes requested needed,
    mulSize p count elementBytes = some requested → requested ≠ 0 →
    neededBytes p requested = some needed →
    w.arena.allocationAttempts < w.arena.failAfterAttempt →
    ((arenaCalloc p w.arena count elementBytes).1 = 0 ↔
      ∀ b ∈ blocks, b.used = false → b.span < needed) ∧
    ((arenaCalloc p w.arena count elementBytes).1 ≠ 0 →
      ∃ offset, (arenaCalloc p w.arena count elementBytes).1 = w.arena.base + offset ∧
        (arenaCalloc p w.arena count elementBytes).2.region.Zero offset requested)
  foreign : ∀ pointer, (∀ x ∈ w.live, x.1 ≠ pointer) →
    (arenaFree p w.arena pointer).2 =
      if pointer = 0 then w.arena
      else { w.arena with corruptionCount := w.arena.corruptionCount + 1 }
  released : ∀ x ∈ w.live, (arenaFree p w.arena x.1).1 = .ok
  drained : w.live = [] → blocks = [.free w.arena.capacityBytes]

theorem Inv.calloc_iff (h : Inv p w blocks) {count elementBytes : ℕ}
    (hmul : mulSize p count elementBytes = some requested) (hne : requested ≠ 0)
    (hneed : neededBytes p requested = some needed)
    (hbelow : w.arena.allocationAttempts < w.arena.failAfterAttempt) :
    ((arenaCalloc p w.arena count elementBytes).1 = 0 ↔
      ∀ b ∈ blocks, b.used = false → b.span < needed) ∧
    ((arenaCalloc p w.arena count elementBytes).1 ≠ 0 →
      ∃ offset, (arenaCalloc p w.arena count elementBytes).1 = w.arena.base + offset ∧
        (arenaCalloc p w.arena count elementBytes).2.region.Zero offset requested) := by
  have hrequested : requested = count * elementBytes := by
    unfold mulSize at hmul
    split_ifs at hmul
    exact (Option.some.inj hmul).symm
  rcases arenaCalloc_cases h.walk count elementBytes with
    ⟨pre, b, post, needed', rfl, hfits, hneed', hcall⟩ | ⟨attempts, oom, hcall, hnone⟩
  · rw [hrequested] at hneed ⊢
    obtain rfl : needed' = needed := Option.some.inj (hneed'.symm.trans hneed)
    obtain ⟨hfree, hspace⟩ := Block.fits_iff.1 hfits
    have hbase := (arenaHeaderValid_iff.1 h.walk.valid).2.1
    have hpointer : (arenaCalloc p w.arena count elementBytes).1 =
        w.arena.base + total pre + p.headerBytes := by
      rw [hcall]
      rfl
    obtain ⟨-, ⟨hok, hstored⟩, -⟩ := (laidOut_mid _ _ _ _).1 h.walk.laid
    rw [Nat.zero_add] at hstored
    have hreaches := h.walk.reaches
    have hcap := h.walk.small
    rw [total_append, total_cons] at hreaches
    obtain ⟨-, -, -, hzero⟩ := usableBlock_laidOut hok hstored hfree (by omega) hneed hspace
    refine ⟨iff_of_false ?_ ?_, fun _ => ⟨total pre + p.headerBytes, ?_, ?_⟩⟩
    · rw [hpointer]
      omega
    · intro hall
      exact absurd (hall b (by simp) hfree) (by omega)
    · rw [hpointer, Nat.add_assoc]
    · rw [hcall]
      exact hzero
  · have hzero : (arenaCalloc p w.arena count elementBytes).1 = 0 := by rw [hcall]
    refine ⟨iff_of_true hzero fun b hb hfree => ?_, fun hnot => absurd hzero hnot⟩
    have hfits := hnone requested needed hmul hne hneed hbelow b hb
    by_contra hnot
    rw [Block.fits_iff.2 ⟨hfree, Nat.not_lt.1 hnot⟩] at hfits
    cases hfits

/-- When nothing is held, one free block has the whole region. -/
theorem Inv.drained (h : Inv p w blocks) (hlive : w.live = []) :
    blocks = [.free w.arena.capacityBytes] := by
  have hnone : payloadsFrom p w.arena.base 0 blocks = [] := by
    rw [← List.nil_perm, ← hlive]
    exact h.live
  have hfree : ∀ b ∈ blocks, b.used = false := by
    intro b hb
    by_contra hused
    obtain ⟨pre, post, hblocks⟩ := List.append_of_mem hb
    rw [hblocks, payloadsFrom_append, payloadsFrom_used (by simpa using hused)] at hnone
    exact absurd hnone (by simp)
  have hone := h.separated.all_free hfree
  have hreaches := h.walk.reaches
  have hvalid := arenaHeaderValid_iff.1 h.walk.valid
  have hpos := p.headerBytes_pos
  obtain ⟨b, rfl⟩ : ∃ b, blocks = [b] := by
    refine List.length_eq_one_iff.1 (le_antisymm hone (List.length_pos_iff.2 ?_))
    rintro rfl
    rw [total_nil] at hreaches
    omega
  obtain ⟨t, rfl⟩ := h.walk.laid.1.1.eq_free (hfree b List.mem_cons_self)
  have hspan : t = w.arena.capacityBytes := by
    have htotal : 0 + (t + 0) = w.arena.capacityBytes := hreaches
    omega
  rw [hspan]

/-- What the invariant says. -/
theorem Inv.sound (h : Inv p w blocks) : ArenaSound p w blocks where
  laid := h.walk.laid
  tiles := by
    have hreaches := h.walk.reaches
    rwa [Nat.zero_add] at hreaches
  aligned := fun b hb => ⟨(h.walk.laid.ok b hb).header, (h.walk.laid.ok b hb).aligned⟩
  separated := h.separated
  current := h.current
  outstanding := h.outstanding
  owned := fun x hx => by
    obtain ⟨o, d, hmem, rfl⟩ := mem_payloadsFrom.1 (h.live.mem_iff.1 hx)
    obtain ⟨hused, pre, post, rfl, ho⟩ := mem_usedAt.1 hmem
    obtain ⟨-, ⟨hok, hstored⟩, -⟩ := (laidOut_mid _ _ _ _).1 h.walk.laid
    rw [← ho] at hstored
    exact ⟨o, d, hmem, rfl, hok.used hused, hstored.tail hused⟩
  disjoint := by
    refine (h.live.pairwise_iff fun hxy => hxy.symm).2 ?_
    exact (payloadsFrom_pairwise w.arena.base h.walk.laid).imp fun hxy => .inl hxy
  zero := fun pre b post hblocks hfree => by
    subst hblocks
    obtain ⟨-, ⟨-, hstored⟩, -⟩ := (laidOut_mid _ _ _ _).1 h.walk.laid
    rw [Nat.zero_add] at hstored
    exact hstored.free hfree
  intact := (arenaHeaderValid_iff.1 h.walk.valid).1
  calloc := fun _ _ _ _ hmul hne hneed hbelow => h.calloc_iff hmul hne hneed hbelow
  foreign := fun _ hother => h.free_other hother
  released := fun _ hx => (h.free_live hx).1
  drained := h.drained

end Calls

/-- **From an arena that was initialized, every run of calls keeps the blocks and the memory as the
allocator says.** -/
theorem arena_run_sound (p : Platform) (memory : Mem) (region regionBytes : ℕ) {a : TlsArena}
    (h : arenaInit p memory region regionBytes = some a) (calls : List ArenaCall) :
    ∃ blocks, ArenaSound p (World.run p a calls) blocks := by
  obtain ⟨blocks, hinv⟩ := (Inv.init h).run calls
  exact ⟨blocks, hinv.sound⟩

/-- The sizes of a 64-bit host. -/
def hostPlatform : Platform where
  wordBytes := 8
  alignment := 16
  headerBytes := 32
  word := by decide
  power := ⟨4, rfl⟩
  aligned := rfl
  fields := by decide

/-- A host's region of 4100 bytes, the last four of which stay unused. -/
theorem arena_run_sound_host :
    ∃ a, arenaInit hostPlatform (fun _ => 0xFF) 4096 4100 = some a ∧
      ∃ blocks, ArenaSound hostPlatform
        (World.run hostPlatform a
          [.calloc 3 7, .write 4128 20 1, .calloc 2 5, .calloc 1 100, .free 4128, .calloc 1 8,
            .free 4130]) blocks :=
  ⟨_, rfl, arena_run_sound hostPlatform (fun _ => 0xFF) 4096 4100 rfl _⟩

end Ninlil.Wifi
