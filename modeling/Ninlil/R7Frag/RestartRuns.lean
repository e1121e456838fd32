import Ninlil.R7Frag.LaneRuns
import Ninlil.R7Frag.LinkGroups
import Ninlil.R7Frag.RestartReads

/-!
# Restarts of every engine

* `SnapReady.restart`: a snapshot is read inside its bytes, and accepted;
* `EngineStep`, `Reached`: the calls that change the lanes or the link groups, from the start on;
* `DecodeSound`: what the decoder promises for one input;
* `restart_decode_iff`: it keeps that for exactly the inputs whose link groups are not cut, and
  the snapshot of every engine restores its lanes.
-/

namespace Ninlil.R7Frag

open Bytes

variable {P : Profile}

/-! ### Snapshots -/

variable {p : Engine P}

theorem length_headerBytes (p : Engine P) : (headerBytes p).length = snapHdrLen := by
  simp [headerBytes, snapHdrLen]

theorem length_linkBytes (G : LinkGroup) : (linkBytes G).length = linkLen G := by
  simp only [linkBytes, linkLen, List.length_cons, List.length_append, length_storeU16Be,
    length_storeU32Be, length_storeU64Be]
  omega

theorem length_flatMap_laneBytes (Ls : List Lane) :
    (Ls.flatMap laneBytes).length = Ls.length * snapLaneLen := by
  induction Ls with
  | nil => rfl
  | cons L Ls ih =>
    rw [List.flatMap_cons, List.length_append, ih, length_laneBytes, List.length_cons, Nat.add_mul,
      Nat.one_mul, Nat.add_comm]

theorem length_flatMap_linkBytes (Gs : List LinkGroup) :
    (Gs.flatMap linkBytes).length = (Gs.map linkLen).sum := by
  induction Gs with
  | nil => rfl
  | cons G Gs ih =>
    rw [List.flatMap_cons, List.length_append, ih, length_linkBytes, List.map_cons, List.sum_cons]

/-- With room for it, a snapshot is written. -/
theorem restartEncode_ok {outCapacity : ℕ} (h : snapNeed p ≤ outCapacity) :
    restartEncode p outCapacity = .ok (headerBytes p ++ (p.usedLanes.flatMap laneBytes
      ++ p.usedLinks.flatMap linkBytes)) := by
  have hlength : (headerBytes p ++ (p.usedLanes.flatMap laneBytes
      ++ p.usedLinks.flatMap linkBytes)).length = snapNeed p := by
    rw [List.length_append, List.length_append, length_headerBytes, length_flatMap_laneBytes,
      length_flatMap_linkBytes, snapNeed]
    omega
  have hroom : ¬outCapacity < snapNeed p := Nat.not_lt.2 h
  unfold restartEncode
  exact (if_neg hroom).trans (if_neg (not_not.2 hlength))

/-- A link group in use is read back, its blob apart. -/
theorem loadLink_append {G : LinkGroup} (h : G.Ready) (rest : List UInt8) :
    loadLink (linkBytes G ++ rest) =
      ({ G with e2eBlob := [] }, G.e2eBlob.length, G.e2eBlob ++ rest) := by
  obtain ⟨huse, -, hmax⟩ := h
  have hlt : G.e2eBlob.length < 2 ^ 16 := by omega
  have hread : loadLink (linkBytes G ++ rest) =
      ({ G with inUse := true, e2eBlob := [] }, G.e2eBlob.length, G.e2eBlob ++ rest) := by
    simp only [loadLink, linkBytes, List.cons_append, List.append_assoc, loadU8_cons,
      loadU32Be_append, loadU64Be_append, loadU16Be_append hlt]
  rw [hread, ← huse]

theorem lanesPass_append {Ls : List Lane} (h : ∀ L ∈ Ls, L.Ready) (rest : List UInt8) :
    lanesPass Ls.length (Ls.flatMap laneBytes ++ rest) = true := by
  induction Ls with
  | nil => rfl
  | cons L Ls ih =>
    obtain ⟨huse, hok⟩ := h L List.mem_cons_self
    rw [List.length_cons, List.flatMap_cons, List.append_assoc, lanesPass, loadLane_append huse, hok,
      Bool.true_and]
    exact ih fun L hL => h L (List.mem_cons_of_mem _ hL)

/-- The link groups of a snapshot are whole, and restored. -/
theorem restoreLinks_append {Gs : List LinkGroup} (h : ∀ G ∈ Gs, G.Ready) (rest : List UInt8) :
    ∀ {slot : ℕ} {eng : Engine P}, slot + Gs.length ≤ linkGroupSlots →
      linksCut Gs.length (Gs.flatMap linkBytes ++ rest) = false ∧
        ∃ eng', restoreLinks Gs.length slot (Gs.flatMap linkBytes ++ rest) eng =
          .ok (rest, eng') := by
  induction Gs with
  | nil => exact fun _ => ⟨rfl, _, rfl⟩
  | cons G Gs ih =>
    intro slot eng hle
    have hG := h G List.mem_cons_self
    have hmin := hG.2.1
    have hmax := hG.2.2
    rw [List.length_cons] at hle
    have hslot : slot < linkGroupSlots := by omega
    have hlength : (linkBytes G ++ (Gs.flatMap linkBytes ++ rest)).length =
        42 + G.e2eBlob.length + (Gs.flatMap linkBytes ++ rest).length := by
      rw [List.length_append, length_linkBytes, linkLen]
    have hlong : ¬(linkBytes G ++ (Gs.flatMap linkBytes ++ rest)).length < 36 := by omega
    have hwhole : ¬(linkBytes G ++ (Gs.flatMap linkBytes ++ rest)).length < 42 := by omega
    have hblob : ¬(G.e2eBlob.length < 31 ∨ G.e2eBlob.length > 220 ∨
        42 + G.e2eBlob.length > (linkBytes G ++ (Gs.flatMap linkBytes ++ rest)).length) := by omega
    have hih := @ih (fun G hG => h G (List.mem_cons_of_mem _ hG)) (slot + 1)
    rw [List.length_cons, List.flatMap_cons, List.append_assoc, linksCut, restoreLinks,
      dif_pos hslot, if_neg hlong, if_neg hwhole, if_neg hlong, loadLink_append hG]
    dsimp only
    rw [if_neg hblob, if_neg hblob, List.drop_left]
    exact hih (by omega)

theorem SnapReady.usedLanes (h : SnapReady p) : ∀ L ∈ p.usedLanes, L.Ready := by
  intro L hL
  obtain ⟨hmem, huse⟩ := List.mem_filter.1 hL
  obtain ⟨i, -, rfl⟩ := List.mem_map.1 hmem
  exact h.lanes i huse

theorem SnapReady.usedLinks (h : SnapReady p) : ∀ G ∈ p.usedLinks, G.Ready := by
  intro G hG
  obtain ⟨hmem, huse⟩ := List.mem_filter.1 hG
  obtain ⟨i, -, rfl⟩ := List.mem_map.1 hmem
  exact h.links i huse

/-- A snapshot is read inside its bytes, and accepted. -/
theorem SnapReady.restart (h : SnapReady p) (eng : Engine P) :
    ∃ eng', restartDecode? eng (headerBytes p ++ (p.usedLanes.flatMap laneBytes
      ++ p.usedLinks.flatMap linkBytes)) = some (.ok, eng') := by
  set body := p.usedLanes.flatMap laneBytes ++ p.usedLinks.flatMap linkBytes with hbody
  have hlaneCount := length_usedLanes_le p
  have hlinkCount := length_usedLinks_le p
  have hlanes16 : p.usedLanes.length < 2 ^ 16 := hlaneCount.trans_lt (by decide)
  have hlinks16 : p.usedLinks.length < 2 ^ 16 := hlinkCount.trans_lt (by decide)
  have hheader : (loadHeader (headerBytes p ++ body)).1 =
      ⟨snapMagic, snapVersion, p.usedLanes.length, 0, p.usedLinks.length⟩ := by
    simp only [loadHeader, headerBytes, List.append_assoc, loadU32Be_append,
      loadU16Be_append (show snapVersion < 2 ^ 16 by decide),
      loadU16Be_append (show 0 < 2 ^ 16 by decide), loadU16Be_append hlanes16,
      loadU16Be_append hlinks16]
  have hdrop : (headerBytes p ++ body).drop snapHdrLen = body :=
    List.drop_left' (length_headerBytes p)
  have hdrop' : (headerBytes p ++ body).drop (snapHdrLen + p.usedLanes.length * snapLaneLen) =
      p.usedLinks.flatMap linkBytes ++ [] := by
    rw [← List.drop_drop, hdrop, List.append_nil]
    exact List.drop_left' (length_flatMap_laneBytes _)
  have hlength : (headerBytes p ++ body).length = snapHdrLen + p.usedLanes.length * snapLaneLen +
      (p.usedLinks.flatMap linkBytes).length := by
    rw [List.length_append, length_headerBytes, hbody, List.length_append, length_flatMap_laneBytes,
      Nat.add_assoc]
  have hok : (loadHeader (headerBytes p ++ body)).1.ok (headerBytes p ++ body).length = true := by
    rw [hheader, SnapHeader.ok]
    simp only [beq_self_eq_true, Bool.true_and, Bool.and_eq_true, decide_eq_true_eq]
    exact ⟨⟨hlaneCount, hlinkCount⟩, by omega⟩
  have hpass : lanesPass p.usedLanes.length body = true := lanesPass_append h.usedLanes _
  have hroom : p.usedLanes.length * snapLaneLen ≤ body.length := by
    rw [hbody, List.length_append, length_flatMap_laneBytes]
    omega
  rcases restoreLanes_spec p.usedLanes.length 0 body
    { Engine.init P with
      nowMono := (loadClock (loadHeader (headerBytes p ++ body)).2).1.1
      globalFence := (loadClock (loadHeader (headerBytes p ++ body)).2).1.2 } (by omega) hroom with
    ⟨hno, -⟩ | ⟨-, Ls, eng₁, -, -, hrun, -, -⟩
  · rw [hpass] at hno
    cases hno
  obtain ⟨hcut, eng₂, hrun'⟩ := @restoreLinks_append P p.usedLinks h.usedLinks [] 0 eng₁ (by omega)
  refine ⟨eng₂, ?_⟩
  have hwhole : cutLink (headerBytes p ++ body) = false := by
    rw [cutLink, hheader]
    dsimp only
    rw [hdrop', hcut, Bool.and_false]
  have hrest :
      body.drop (p.usedLanes.length * snapLaneLen) = p.usedLinks.flatMap linkBytes ++ [] := by
    rw [List.append_nil]
    exact List.drop_left' (length_flatMap_laneBytes _)
  rw [restartDecode?_eq, hwhole, if_neg Bool.false_ne_true, restartDecode_eq, hok,
    if_neg (by omega), if_neg (by decide), hdrop]
  simp only [hheader] at hrun ⊢
  rw [hrun]
  dsimp only
  rw [hrest, hrun']
  rfl

/-! ### Runs -/

/-- One call. -/
inductive EngineStep : Engine P → Engine P → Prop
  | install (eng : Engine P) (laneKind : UInt8) (contextId : UInt32) (keyGeneration : UInt64) :
      EngineStep eng (laneInstall eng laneKind contextId keyGeneration).2.1
  | allocate (eng : Engine P) (slot : ℕ) : EngineStep eng (laneTxAllocate eng slot).2.1
  | rxAdmit (eng : Engine P) (slot : ℕ) (counter : UInt64) :
      EngineStep eng (laneRxAdmit eng slot counter).2
  | fence (eng : Engine P) (slot : Fin laneSlots) : EngineStep eng (laneFence eng slot)
  | groupAdmit (eng : Engine P) (hopDataContextId : UInt32) (ackRequested : UInt8)
      (e2eCounterFixed : UInt64) (e2eBlob : List UInt8) (enclosingOwnerDeadline : UInt64) :
      EngineStep eng (linkGroupAdmit eng hopDataContextId ackRequested e2eCounterFixed e2eBlob
        enclosingOwnerDeadline).2.1
  | noteAir (eng : Engine P) (group : ℕ) (hopCounter txMono : UInt64) :
      EngineStep eng (linkGroupNoteAir eng group hopCounter txMono).2
  | applyAck (eng : Engine P) (group : ℕ) (validated : Status) (ackedHopContextId : UInt32)
      (covered : Bool) :
      EngineStep eng (linkGroupApplyAck eng group validated ackedHopContextId covered).2
  | unackedSuccess (eng : Engine P) (group : ℕ) :
      EngineStep eng (linkGroupUnackedSuccess eng group).2
  /-- The clock, the reassembly and the publication leave the lanes and the groups. -/
  | other (eng eng' : Engine P) (hlanes : eng'.lanes = eng.lanes) (hlinks : eng'.links = eng.links) :
      EngineStep eng eng'
  | init (eng : Engine P) : EngineStep eng (Engine.init P)
  | restart (eng eng' : Engine P) (input : List UInt8) (status : Status)
      (h : restartDecode? eng input = some (status, eng')) : EngineStep eng eng'

/-- An engine that calls lead to. -/
def Reached (eng : Engine P) : Prop := Relation.ReflTransGen EngineStep (Engine.init P) eng

variable {eng eng' : Engine P}

theorem SnapReady.setLane (h : SnapReady eng) {i : Fin laneSlots} {L : Lane}
    (hL : L.inUse = true → L.Ready) : SnapReady (eng.setLane i L) where
  lanes := fun j hj => by
    rw [Engine.setLane_lanes] at hj ⊢
    by_cases hji : j = i
    · subst hji
      rw [Function.update_self] at hj ⊢
      exact hL hj
    · rw [Function.update_of_ne hji] at hj ⊢
      exact h.lanes j hj
  links := h.links

theorem SnapReady.setLink (h : SnapReady eng) {i : Fin linkGroupSlots} {G : LinkGroup}
    (hG : G.Ready) : SnapReady (eng.setLink i G) where
  lanes := h.lanes
  links := fun j hj => by
    show (Function.update eng.links i G j).Ready
    have hj' : (Function.update eng.links i G j).inUse = true := hj
    by_cases hji : j = i
    · subst hji
      rw [Function.update_self]
      exact hG
    · rw [Function.update_of_ne hji] at hj' ⊢
      exact h.links j hj'

theorem SnapReady.touches (h : SnapReady eng) (ht : TouchesGroup eng eng') : SnapReady eng' := by
  rcases ht with rfl | ⟨i, G, rfl, huse, hin, hblob⟩
  · exact h
  · obtain ⟨-, hmin, hmax⟩ := h.links i huse
    exact h.setLink ⟨hin, by rw [hblob]; exact hmin, by rw [hblob]; exact hmax⟩

/-- Every call keeps what a snapshot may carry. -/
theorem SnapReady.step (h : SnapReady eng) (hstep : EngineStep eng eng') : SnapReady eng' := by
  cases hstep with
  | install laneKind contextId keyGeneration =>
    unfold laneInstall
    split_ifs with hkind hcontext hdup
    · exact h
    · exact h
    · exact h
    · cases (List.finRange laneSlots).find? fun i => !(eng.lanes i).inUse with
      | none => exact h
      | some i =>
        refine h.setLane fun _ => ⟨rfl, ?_⟩
        rw [not_or, Bool.not_eq_false] at hcontext
        rw [Bool.not_eq_false] at hkind
        show (contextOk contextId && keyGeneration != 0 && laneKindOk laneKind) = true
        rw [hcontext.1, hkind, bne_iff_ne.2 hcontext.2]
        rfl
  | allocate slot =>
    rcases laneTxAllocate_cases eng slot with ⟨hsame, -⟩ | ⟨hslot, L', huse, -, hreserve, hcall⟩
    · rw [hsame]
      exact h
    · obtain ⟨-, hok⟩ := h.lanes _ huse
      have hready : L'.Ready := by
        unfold Lane.txReserve at hreserve
        split_ifs at hreserve
        · obtain ⟨U, -, rfl⟩ := Option.map_eq_some_iff.1 hreserve
          exact ⟨huse, hok⟩
        · obtain rfl := Option.some.inj hreserve
          exact ⟨huse, hok⟩
      rcases hcall with ⟨-, hcall⟩ | hcall
      · rw [hcall]
        exact h.setLane fun _ => hready
      · rw [hcall]
        exact h.setLane fun _ => hready
  | rxAdmit slot counter =>
    rcases laneRxAdmit_cases eng slot counter with ⟨hsame, -⟩ | ⟨hslot, huse, -, -, -, hcall⟩
    · rw [hsame]
      exact h
    · rw [hcall]
      obtain ⟨-, hok⟩ := h.lanes _ huse
      obtain ⟨hin, hkind, hctx, hgen, -⟩ := Lane.rxMark_frame (eng.lanes ⟨slot, hslot⟩) counter
      refine h.setLane fun _ => ⟨hin.trans huse, ?_⟩
      rw [Lane.snapOk, hkind, hctx, hgen]
      exact hok
  | fence slot => exact h.setLane fun huse => h.lanes slot huse
  | groupAdmit hopDataContextId ackRequested e2eCounterFixed e2eBlob enclosingOwnerDeadline =>
    rcases linkGroupAdmit_cases eng hopDataContextId ackRequested e2eCounterFixed e2eBlob
      enclosingOwnerDeadline with hsame | ⟨i, G, hcall, -, hready⟩
    · rw [hsame]
      exact h
    · rw [hcall]
      exact h.setLink hready
  | noteAir => exact h.touches (linkGroupNoteAir_touches ..)
  | applyAck => exact h.touches (linkGroupApplyAck_touches ..)
  | unackedSuccess => exact h.touches (linkGroupUnackedSuccess_touches ..)
  | other _ hlanes hlinks =>
    exact ⟨fun i hi => by rw [hlanes] at hi ⊢; exact h.lanes i hi,
      fun i hi => by rw [hlinks] at hi ⊢; exact h.links i hi⟩
  | init => exact snapReady_init
  | restart _ input status hdecode =>
    rw [restartDecode?_eq] at hdecode
    split_ifs at hdecode with hcut
    have hresult := congrArg Prod.snd (Option.some.inj hdecode)
    rcases restartDecode_spec eng input with ⟨e, hrun, hwhich⟩ | ⟨e, hrun, hready, -⟩
    · rw [hrun] at hresult
      obtain rfl : e = eng' := hresult
      rcases hwhich with rfl | rfl
      · exact h
      · exact snapReady_init
    · rw [hrun] at hresult
      obtain rfl : e = eng' := hresult
      exact hready

theorem Reached.snapReady (h : Reached eng) : SnapReady eng := by
  induction h with
  | refl => exact snapReady_init
  | tail _ hstep ih => exact ih.step hstep

/-- The decoder reads inside its input; it accepts only if header, lanes, link groups and blobs are
all of it; and refused, the engine is as it was or as after its start. -/
def DecodeSound (eng : Engine P) (input : List UInt8) : Prop :=
  ∃ status eng', restartDecode? eng input = some (status, eng') ∧
    (status = .ok → eng'.usedLanes.length = (loadHeader input).1.laneCount ∧
      eng'.usedLinks.length = (loadHeader input).1.linkCount ∧ input.length = snapNeed eng') ∧
    (status ≠ .ok → status = .structural ∧ (eng' = eng ∨ eng' = Engine.init P))

theorem decodeSound_iff (eng : Engine P) (input : List UInt8) :
    DecodeSound eng input ↔ cutLink input = false := by
  unfold DecodeSound
  rw [restartDecode?_eq]
  cases hcut : cutLink input with
  | true => simp
  | false =>
    rw [if_neg Bool.false_ne_true]
    refine ⟨fun _ => rfl, fun _ => ?_⟩
    rcases restartDecode_spec eng input with ⟨e, hrun, hwhich⟩ | ⟨e, hrun, -, hlength⟩
    · exact ⟨_, e, congrArg some hrun, (fun h => by cases h), fun _ => ⟨rfl, hwhich⟩⟩
    · exact ⟨_, e, congrArg some hrun, (fun _ => hlength), fun h => absurd rfl h⟩

/-- **The decoder is sound for exactly the inputs whose link groups are not cut; and a snapshot of
every engine is accepted, and restores the lanes in slot order.** -/
theorem restart_decode_iff (P : Profile) :
    (∀ (eng : Engine P) (input : List UInt8), DecodeSound eng input ↔ cutLink input = false) ∧
    ∀ p fresh : Engine P, Reached p → ∀ outCapacity, snapNeed p ≤ outCapacity →
      ∃ bytes eng', restartEncode p outCapacity = .ok bytes ∧
        restartDecode? fresh bytes = some (.ok, eng') ∧
        ∀ i : Fin laneSlots, eng'.lanes i =
          (p.usedLanes[i.val]?.map Lane.restarted).getD Lane.zero := by
  refine ⟨decodeSound_iff, fun p fresh hp outCapacity hroom => ?_⟩
  have hready := hp.snapReady
  have hencode := restartEncode_ok hroom
  obtain ⟨eng', hdecode⟩ := hready.restart fresh
  refine ⟨_, eng', hencode, hdecode, fun i => ?_⟩
  rw [restartDecode?_eq] at hdecode
  split_ifs at hdecode with hcut
  exact restart_lanes hencode (Option.some.inj hdecode) i

/-- A header that counts one link group, and 36 bytes of it. -/
def cutSnapshot : List UInt8 :=
  [0x52, 0x37, 0x46, 0x53, 0, 1, 0, 0, 0, 0, 0, 1] ++ List.replicate 48 0

/-- The decoder reads behind the end of its input. -/
theorem restart_reads_outside : cutSnapshot.length = 60 ∧
    restartDecode? (Engine.init controllerProfile) cutSnapshot = none ∧
    ¬DecodeSound (Engine.init controllerProfile) cutSnapshot := by
  have hcut : cutLink cutSnapshot = true := by decide +kernel
  have hread : restartDecode? (Engine.init controllerProfile) cutSnapshot = none := by
    rw [restartDecode?_eq, hcut, if_pos rfl]
  refine ⟨rfl, hread, fun hsound => ?_⟩
  have hwhole := (decodeSound_iff _ _).1 hsound
  rw [hcut] at hwhole
  cases hwhole

/-- An engine with two lanes, a counter drawn on the second, and a link group. -/
def twoLanes : Engine controllerProfile :=
  (linkGroupAdmit (laneTxAllocate (laneInstall (laneInstall (Engine.init controllerProfile) 1 7 1).2.1
    2 9 1).2.1 1).2.1 7 1 5 (List.replicate 31 0) 0).2.1

theorem twoLanes_reached : Reached twoLanes :=
  .tail (.tail (.tail (.single (.install _ 1 7 1)) (.install _ 2 9 1)) (.allocate _ 1))
    (.groupAdmit _ 7 1 5 (List.replicate 31 0) 0)

/-- **The decoder of the larger profile, and a restart of that engine.** -/
theorem restart_decode_iff_controller :
    (∀ (eng : Engine controllerProfile) (input : List UInt8),
      DecodeSound eng input ↔ cutLink input = false) ∧
    (twoLanes.usedLanes.length = 2 ∧ twoLanes.usedLinks.length = 1) ∧
    ∃ bytes eng', restartEncode twoLanes (snapNeed twoLanes) = .ok bytes ∧
      restartDecode? (Engine.init controllerProfile) bytes = some (.ok, eng') ∧
      ∀ i : Fin laneSlots, eng'.lanes i =
        (twoLanes.usedLanes[i.val]?.map Lane.restarted).getD Lane.zero :=
  ⟨(restart_decode_iff controllerProfile).1, ⟨by decide +kernel, by decide +kernel⟩,
    (restart_decode_iff controllerProfile).2 twoLanes (Engine.init controllerProfile)
      twoLanes_reached (snapNeed twoLanes) le_rfl⟩

end Ninlil.R7Frag
