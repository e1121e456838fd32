import Mathlib.Data.List.Basic
import Mathlib.Data.Vector.Basic
import Mathlib.Tactic.SplitIfs

/-!
# What became of a commit that is unknown

`ninlil_r7_frag_cu_classify` and `ninlil_r7_frag_state_cu_classify`: each entry of a commit whose
outcome is unknown is read back and compared with its old and its proposed value.

* `CuEntry`, `cuEntryClass`, `cuOne`: an entry and its class, in either implementation;
* `cuClassify`, `stateCuClassify`: the class of a list of entries;
* `classifier_exact`: the class of a list is what its observations say, in any order.

A list stands for an array that is not null.
-/

namespace Ninlil.R7Frag

/-! ### Entries -/

/-- `ninlil_r7_frag_cu_entry`, and `ninlil_r7_frag_state_cu_entry`. -/
structure CuEntry where
  oldPresent : UInt8
  proposedPresent : UInt8
  keyLen : UInt16
  oldLen : UInt16
  proposedLen : UInt16
  key : Vector UInt8 255
  oldBytes : Vector UInt8 256
  proposedBytes : Vector UInt8 256
  /-- 0 found, 1 not found, 2 busy, 3 an error of the device, 4 any other. -/
  observedStatus : UInt8
  observedLen : UInt16
  observedBytes : Vector UInt8 256

/-- `NINLIL_R7_FRAG_CU_ENTRY_*`. -/
inductive CuEntryClass
  | old
  | proposed
  | third
  deriving DecidableEq

/-- `NINLIL_R7_FRAG_CU_*`. -/
inductive CuClass
  | retryLater
  | allOld
  | allProposed
  | third
  | corrupt
  deriving DecidableEq

/-- A value of so many bytes is the one that was observed. -/
def CuEntry.observedIs (e : CuEntry) (len : UInt16) (bytes : Vector UInt8 256) : Bool :=
  e.observedStatus == 0 && e.observedLen == len &&
    (len == 0 || e.observedBytes.toList.take len.toNat == bytes.toList.take len.toNat)

/-- `ninlil_r7_frag_cu_entry_class`; `0`, which asks for another reading, is `none`. -/
def cuEntryClass (e : CuEntry) : Option CuEntryClass :=
  if e.observedStatus = 2 ∨ e.observedStatus = 3 then none
  else if e.observedStatus = 4 then some .third
  else if e.proposedPresent ≠ 0 then
    if e.observedIs e.proposedLen e.proposedBytes then some .proposed
    else if e.oldPresent ≠ 0 then
      if e.observedIs e.oldLen e.oldBytes then some .old
      else if e.observedStatus = 1 then some .third
      else some .third
    else if e.observedStatus = 1 then some .old
    else some .third
  else if e.oldPresent ≠ 0 then
    if e.observedStatus = 1 then some .proposed
    else if e.observedIs e.oldLen e.oldBytes then some .old
    else some .third
  else some .third

/-- `cu_one`, the class of an entry in the other implementation. -/
def cuOne (e : CuEntry) : Option CuEntryClass :=
  if e.observedStatus = 2 ∨ e.observedStatus = 3 then none
  else if e.observedStatus = 4 then some .third
  else if e.proposedPresent ≠ 0 then
    if e.observedIs e.proposedLen e.proposedBytes then some .proposed
    else if e.oldPresent ≠ 0 ∧ e.observedIs e.oldLen e.oldBytes then some .old
    else if e.oldPresent = 0 ∧ e.observedStatus = 1 then some .old
    else some .third
  else if e.oldPresent ≠ 0 then
    if e.observedStatus = 1 then some .proposed
    else if e.observedIs e.oldLen e.oldBytes then some .old
    else some .third
  else some .third

/-! ### Lists of entries -/

/-- `NINLIL_R7_FRAG_CU_MAX_ENTRIES`. -/
def cuMaxEntries : ℕ := 32

/-- The lengths of a key and of values. -/
def CuEntry.LengthsValid (e : CuEntry) : Prop :=
  (e.keyLen ≠ 0 ∧ e.keyLen ≤ 255) ∧ e.oldLen ≤ 256 ∧ e.proposedLen ≤ 256 ∧ e.observedLen ≤ 256

instance (e : CuEntry) : Decidable e.LengthsValid := by
  unfold CuEntry.LengthsValid
  infer_instance

/-- Which classes were seen. -/
structure CuSeen where
  anyOld : Bool := false
  anyProp : Bool := false
  anyThird : Bool := false

def CuSeen.add (s : CuSeen) : CuEntryClass → CuSeen
  | .old => { s with anyOld := true }
  | .proposed => { s with anyProp := true }
  | .third => { s with anyThird := true }

/-- The class of a list whose entries were all classified. -/
def CuSeen.result (s : CuSeen) : CuClass :=
  if s.anyThird || (s.anyOld && s.anyProp) then .third
  else if s.anyProp then .allProposed
  else .allOld

/-- The loop of a classifier: the class of the list, and the classes of the entries so far. -/
def cuLoop (entryClass : CuEntry → Option CuEntryClass) :
    List CuEntry → CuSeen → List CuEntryClass → CuClass × List CuEntryClass
  | [], seen, classes => (seen.result, classes)
  | e :: es, seen, classes =>
    if ¬e.LengthsValid then (.corrupt, classes)
    else if e.observedStatus = 2 ∨ e.observedStatus = 3 then (.retryLater, classes)
    else
      match entryClass e with
      | none => (.retryLater, classes)
      | some c => cuLoop entryClass es (seen.add c) (classes ++ [c])

/-- `ninlil_r7_frag_cu_result`: the classes of the entries up to the first that has none. -/
structure CuResult where
  classCode : CuClass
  entryClass : List CuEntryClass := []
  entryCount : ℕ := 0
  deriving DecidableEq

/-- A classifier, given the class of an entry. -/
def classifyWith (entryClass : CuEntry → Option CuEntryClass) (entries : List CuEntry) : CuResult :=
  if entries.length = 0 ∨ cuMaxEntries < entries.length then { classCode := .corrupt }
  else
    let r := cuLoop entryClass entries {} []
    { classCode := r.1, entryClass := r.2, entryCount := entries.length }

/-- `ninlil_r7_frag_cu_classify`. -/
def cuClassify (entries : List CuEntry) : CuResult := classifyWith cuEntryClass entries

/-- `ninlil_r7_frag_state_cu_classify`. -/
def stateCuClassify (entries : List CuEntry) : CuResult := classifyWith cuOne entries

/-! ### What was observed -/

/-- The value before the commit, if there was one. -/
def CuEntry.old (e : CuEntry) : Option (List UInt8) :=
  if e.oldPresent ≠ 0 then some (e.oldBytes.toList.take e.oldLen.toNat) else none

/-- The value of the commit, if it is not a deletion. -/
def CuEntry.proposed (e : CuEntry) : Option (List UInt8) :=
  if e.proposedPresent ≠ 0 then some (e.proposedBytes.toList.take e.proposedLen.toNat) else none

/-- What was read back: a value or none, where the reading says so. -/
def CuEntry.observed (e : CuEntry) : Option (Option (List UInt8)) :=
  if e.observedStatus = 0 then some (some (e.observedBytes.toList.take e.observedLen.toNat))
  else if e.observedStatus = 1 then some none
  else none

/-- The lengths are valid and the commit changes the entry. -/
structure CuEntry.WellFormed (e : CuEntry) : Prop where
  lengths : e.LengthsValid
  changes : e.old ≠ e.proposed

section Entries

variable {e : CuEntry} {len : UInt16} {bytes : Vector UInt8 256}

theorem length_take_bytes (h : len ≤ 256) (bytes : Vector UInt8 256) :
    (bytes.toList.take len.toNat).length = len.toNat := by
  have hle := UInt16.le_iff_toNat_le.1 h
  have h256 : (256 : UInt16).toNat = 256 := rfl
  rw [List.length_take, Vector.length_toList]
  omega

/-- A comparison of lengths and bytes is one of values. -/
theorem CuEntry.observedIs_iff (hlen : len ≤ 256) (hobserved : e.observedLen ≤ 256) :
    e.observedIs len bytes = true ↔ e.observed = some (some (bytes.toList.take len.toNat)) := by
  have hl := length_take_bytes hlen bytes
  have hl' := length_take_bytes hobserved e.observedBytes
  unfold CuEntry.observedIs CuEntry.observed
  simp only [Bool.and_eq_true, Bool.or_eq_true, beq_iff_eq]
  by_cases hstatus : e.observedStatus = 0
  · rw [if_pos hstatus, Option.some.injEq, Option.some.injEq]
    constructor
    · rintro ⟨⟨-, heq⟩, hzero | hbytes⟩
      · rw [heq, hzero]
        rfl
      · rw [heq, hbytes]
    · intro heq
      have hsame : e.observedLen = len := by
        rw [← UInt16.toNat_inj, ← hl, ← hl', heq]
      exact ⟨⟨hstatus, hsame⟩, .inr (by rw [← hsame, heq, hsame])⟩
  · rw [if_neg hstatus]
    refine iff_of_false (fun h => hstatus h.1.1) fun h => ?_
    split_ifs at h
    cases h

/-- The two implementations class every entry alike. -/
theorem cuOne_eq (e : CuEntry) : cuOne e = cuEntryClass e := by
  unfold cuOne cuEntryClass
  by_cases hold : e.oldPresent = 0
  · simp [hold]
  · simp [hold]

/-- The class of an entry that was read. -/
theorem cuEntryClass_read (h : e.LengthsValid)
    (hread : e.observedStatus = 0 ∨ e.observedStatus = 1) :
    cuEntryClass e =
      if e.old = none ∧ e.proposed = none then some .third
      else if e.observed = some e.proposed then some .proposed
      else if e.observed = some e.old then some .old
      else some .third := by
  obtain ⟨-, hold, hproposed, hobserved⟩ := h
  have hisOld := @CuEntry.observedIs_iff e e.oldLen e.oldBytes hold hobserved
  have hisProposed := @CuEntry.observedIs_iff e e.proposedLen e.proposedBytes hproposed hobserved
  rcases hread with hfound | hmissing
  · have hobs : e.observed ≠ some none := by simp [CuEntry.observed, hfound]
    by_cases hold : e.oldPresent = 0
    · by_cases hprop : e.proposedPresent = 0
      · simp [cuEntryClass, CuEntry.old, CuEntry.proposed, hfound, hold, hprop]
      · simp [cuEntryClass, CuEntry.old, CuEntry.proposed, hfound, hold, hprop, hisProposed, hobs]
    · by_cases hprop : e.proposedPresent = 0
      · simp [cuEntryClass, CuEntry.old, CuEntry.proposed, hfound, hold, hprop, hisOld, hobs]
      · simp [cuEntryClass, CuEntry.old, CuEntry.proposed, hfound, hold, hprop, hisOld, hisProposed]
  · have hobs : e.observed = some none := by simp [CuEntry.observed, hmissing]
    rw [hobs] at hisOld hisProposed
    by_cases hold : e.oldPresent = 0
    · by_cases hprop : e.proposedPresent = 0
      · simp [cuEntryClass, CuEntry.old, CuEntry.proposed, hmissing, hold, hprop]
      · simp [cuEntryClass, CuEntry.old, CuEntry.proposed, hmissing, hold, hprop, hisProposed, hobs]
    · by_cases hprop : e.proposedPresent = 0
      · simp [cuEntryClass, CuEntry.old, CuEntry.proposed, hmissing, hold, hprop, hobs]
      · simp [cuEntryClass, CuEntry.old, CuEntry.proposed, hmissing, hold, hprop, hisOld,
          hisProposed, hobs]

/-- An entry that is classed as old or as proposed was read so. -/
theorem cuEntryClass_sound (h : e.LengthsValid) :
    (cuEntryClass e = some .old → e.observed = some e.old) ∧
      (cuEntryClass e = some .proposed → e.observed = some e.proposed) := by
  by_cases hread : e.observedStatus = 0 ∨ e.observedStatus = 1
  · rw [cuEntryClass_read h hread]
    split_ifs with _ hproposed hold
    · exact ⟨(fun h => by cases h), fun h => by cases h⟩
    · exact ⟨(fun h => by cases h), fun _ => hproposed⟩
    · exact ⟨fun _ => hold, fun h => by cases h⟩
    · exact ⟨(fun h => by cases h), fun h => by cases h⟩
  · obtain ⟨hfound, hmissing⟩ := not_or.1 hread
    have hthird : cuEntryClass e = none ∨ cuEntryClass e = some .third := by
      unfold cuEntryClass CuEntry.observedIs
      simp [hfound, hmissing]
      tauto
    rcases hthird with hnone | hthird
    · rw [hnone]
      exact ⟨(fun h => by cases h), fun h => by cases h⟩
    · rw [hthird]
      exact ⟨(fun h => by cases h), fun h => by cases h⟩

/-- Every entry that was read is classed, as what it was read as. -/
theorem cuEntryClass_complete (h : e.WellFormed)
    (hread : e.observedStatus = 0 ∨ e.observedStatus = 1) :
    cuEntryClass e =
      if e.observed = some e.proposed then some .proposed
      else if e.observed = some e.old then some .old
      else some .third := by
  rw [cuEntryClass_read h.lengths hread, if_neg]
  rintro ⟨hold, hproposed⟩
  exact h.changes (hold.trans hproposed.symm)

end Entries

/-! ### Classes taken together -/

/-- The class of a list of classes. -/
def classOf (classes : List CuEntryClass) : CuClass := (classes.foldl CuSeen.add {}).result

section Classes

variable {classes classes' : List CuEntryClass} {s : CuSeen}

/-- The flags say which classes are in the list. -/
theorem seen_foldl (classes : List CuEntryClass) (s : CuSeen) :
    classes.foldl CuSeen.add s =
      { anyOld := s.anyOld || decide (.old ∈ classes)
        anyProp := s.anyProp || decide (.proposed ∈ classes)
        anyThird := s.anyThird || decide (.third ∈ classes) } := by
  induction classes generalizing s with
  | nil => simp
  | cons c classes ih =>
    rw [List.foldl_cons, ih]
    cases c <;> simp [CuSeen.add]

theorem classOf_eq (classes : List CuEntryClass) : classOf classes =
    if .third ∈ classes ∨ (.old ∈ classes ∧ .proposed ∈ classes) then .third
    else if .proposed ∈ classes then .allProposed
    else .allOld := by
  unfold classOf
  rw [seen_foldl]
  simp [CuSeen.result]

theorem classOf_eq_allOld : classOf classes = .allOld ↔ ∀ c ∈ classes, c = .old := by
  rw [classOf_eq]
  split_ifs with hthird hprop
  · refine iff_of_false (by decide) fun h => ?_
    rcases hthird with hmem | ⟨-, hmem⟩
    · exact absurd (h _ hmem) (by decide)
    · exact absurd (h _ hmem) (by decide)
  · exact iff_of_false (by decide) fun h => absurd (h _ hprop) (by decide)
  · refine iff_of_true rfl fun c hc => ?_
    cases c with
    | old => rfl
    | proposed => exact absurd hc hprop
    | third => exact absurd (.inl hc) hthird

theorem classOf_eq_allProposed (hne : classes ≠ []) :
    classOf classes = .allProposed ↔ ∀ c ∈ classes, c = .proposed := by
  rw [classOf_eq]
  split_ifs with hthird hprop
  · refine iff_of_false (by decide) fun h => ?_
    rcases hthird with hmem | ⟨hmem, -⟩
    · exact absurd (h _ hmem) (by decide)
    · exact absurd (h _ hmem) (by decide)
  · refine iff_of_true rfl fun c hc => ?_
    cases c with
    | old => exact absurd (.inr ⟨hc, hprop⟩) hthird
    | proposed => rfl
    | third => exact absurd (.inl hc) hthird
  · refine iff_of_false (by decide) fun h => ?_
    obtain ⟨c, hc⟩ := List.exists_mem_of_ne_nil _ hne
    exact hprop (h c hc ▸ hc)

theorem classOf_cases (classes : List CuEntryClass) :
    classOf classes = .allOld ∨ classOf classes = .allProposed ∨ classOf classes = .third := by
  rw [classOf_eq]
  split_ifs
  · exact .inr (.inr rfl)
  · exact .inr (.inl rfl)
  · exact .inl rfl

/-- The order of the classes does not matter. -/
theorem classOf_perm (h : classes.Perm classes') : classOf classes = classOf classes' := by
  rw [classOf_eq, classOf_eq]
  simp only [h.mem_iff]

end Classes

/-! ### The loop -/

section Loop

variable {entryClass : CuEntry → Option CuEntryClass} {es es' : List CuEntry}

/-- An entry that the loop gets past. -/
def Settled (entryClass : CuEntry → Option CuEntryClass) (e : CuEntry) : Prop :=
  e.LengthsValid ∧ ¬(e.observedStatus = 2 ∨ e.observedStatus = 3) ∧ (entryClass e).isSome

/-- If it gets past all of them, the classes are combined. -/
theorem cuLoop_of_settled (h : ∀ e ∈ es, Settled entryClass e) (s : CuSeen)
    (classes : List CuEntryClass) :
    (cuLoop entryClass es s classes).1 =
      ((es.filterMap entryClass).foldl CuSeen.add s).result := by
  induction es generalizing s classes with
  | nil => rfl
  | cons e es ih =>
    obtain ⟨⟨hlengths, hread, hclass⟩, hrest⟩ := List.forall_mem_cons.1 h
    obtain ⟨c, hc⟩ := Option.isSome_iff_exists.1 hclass
    rw [cuLoop, if_neg (not_not.2 hlengths), if_neg hread, List.filterMap_cons_some hc, hc]
    exact ih hrest _ _

/-- Otherwise the list is corrupt or has to be read again. -/
theorem cuLoop_of_not_settled (h : ¬∀ e ∈ es, Settled entryClass e) (s : CuSeen)
    (classes : List CuEntryClass) :
    (cuLoop entryClass es s classes).1 = .corrupt ∨
      (cuLoop entryClass es s classes).1 = .retryLater := by
  induction es generalizing s classes with
  | nil => exact absurd (fun e he => absurd he List.not_mem_nil) h
  | cons e es ih =>
    rw [cuLoop]
    by_cases hlengths : e.LengthsValid
    · rw [if_neg (not_not.2 hlengths)]
      by_cases hread : e.observedStatus = 2 ∨ e.observedStatus = 3
      · rw [if_pos hread]
        exact .inr rfl
      · rw [if_neg hread]
        cases hc : entryClass e with
        | none => exact .inr rfl
        | some c =>
          refine ih (fun hrest => h (List.forall_mem_cons.2 ⟨⟨hlengths, hread, ?_⟩, hrest⟩)) _ _
          rw [hc]
          rfl
    · rw [if_pos hlengths]
      exact .inl rfl

/-- With valid lengths, only a reading that failed keeps an entry from a class. -/
theorem settled_iff {e : CuEntry} (h : e.LengthsValid) :
    Settled cuEntryClass e ↔ ¬(e.observedStatus = 2 ∨ e.observedStatus = 3) := by
  unfold Settled
  rw [and_iff_right h, and_iff_left_iff_imp]
  intro hread
  unfold cuEntryClass
  rw [if_neg hread]
  split_ifs <;> rfl

/-- With valid lengths, a list with a reading that failed has to be read again. -/
theorem cuLoop_retry (hlengths : ∀ e ∈ es, e.LengthsValid)
    (h : ¬∀ e ∈ es, Settled cuEntryClass e) (s : CuSeen) (classes : List CuEntryClass) :
    (cuLoop cuEntryClass es s classes).1 = .retryLater := by
  induction es generalizing s classes with
  | nil => exact absurd (fun e he => absurd he List.not_mem_nil) h
  | cons e es ih =>
    obtain ⟨hlength, hrest⟩ := List.forall_mem_cons.1 hlengths
    rw [cuLoop, if_neg (not_not.2 hlength)]
    by_cases hread : e.observedStatus = 2 ∨ e.observedStatus = 3
    · rw [if_pos hread]
    · rw [if_neg hread]
      have hsettled := (settled_iff hlength).2 hread
      obtain ⟨c, hc⟩ := Option.isSome_iff_exists.1 hsettled.2.2
      rw [hc]
      exact ih hrest (fun hall => h (List.forall_mem_cons.2 ⟨hsettled, hall⟩)) _ _

end Loop

/-! ### The classifiers -/

section Classifiers

variable {es es' : List CuEntry}

theorem cuClassify_classCode (hne : es ≠ []) (hmax : es.length ≤ cuMaxEntries) :
    (cuClassify es).classCode = (cuLoop cuEntryClass es {} []).1 := by
  have hcount : ¬(es.length = 0 ∨ cuMaxEntries < es.length) := by
    rw [List.length_eq_zero_iff, not_or, Nat.not_lt]
    exact ⟨hne, hmax⟩
  unfold cuClassify classifyWith
  rw [if_neg hcount]

/-- A list that is all old or all proposed has a class for each entry. -/
theorem settled_of_cuClassify
    (h : (cuClassify es).classCode = .allOld ∨ (cuClassify es).classCode = .allProposed) :
    (∀ e ∈ es, Settled cuEntryClass e) ∧
      (cuClassify es).classCode = classOf (es.filterMap cuEntryClass) := by
  by_cases hcount : es.length = 0 ∨ cuMaxEntries < es.length
  · have hcorrupt : (cuClassify es).classCode = .corrupt := by
      unfold cuClassify classifyWith
      rw [if_pos hcount]
    rw [hcorrupt] at h
    rcases h with h | h <;> cases h
  · rw [List.length_eq_zero_iff, not_or, Nat.not_lt] at hcount
    have hcode := cuClassify_classCode hcount.1 hcount.2
    by_cases hall : ∀ e ∈ es, Settled cuEntryClass e
    · exact ⟨hall, hcode.trans (cuLoop_of_settled hall _ _)⟩
    · rw [hcode] at h
      rcases cuLoop_of_not_settled hall {} [] with hbad | hbad
      · rw [hbad] at h
        rcases h with h | h <;> cases h
      · rw [hbad] at h
        rcases h with h | h <;> cases h

/-- The class of an entry among the others. -/
theorem mem_classes {e : CuEntry} (he : e ∈ es) (h : Settled cuEntryClass e) :
    ∃ c, cuEntryClass e = some c ∧ c ∈ es.filterMap cuEntryClass := by
  obtain ⟨c, hc⟩ := Option.isSome_iff_exists.1 h.2.2
  exact ⟨c, hc, List.mem_filterMap.2 ⟨e, he, hc⟩⟩

theorem cuClassify_old_only (h : (cuClassify es).classCode = .allOld) :
    ∀ e ∈ es, e.observed = some e.old := by
  obtain ⟨hall, hcode⟩ := settled_of_cuClassify (.inl h)
  intro e he
  obtain ⟨c, hc, hmem⟩ := mem_classes he (hall e he)
  have hold := classOf_eq_allOld.1 (hcode.symm.trans h) c hmem
  exact (cuEntryClass_sound (hall e he).1).1 (hc.trans (congrArg some hold))

theorem cuClassify_proposed_only (h : (cuClassify es).classCode = .allProposed) :
    ∀ e ∈ es, e.observed = some e.proposed := by
  obtain ⟨hall, hcode⟩ := settled_of_cuClassify (.inr h)
  intro e he
  obtain ⟨c, hc, hmem⟩ := mem_classes he (hall e he)
  have hprop := (classOf_eq_allProposed (List.ne_nil_of_mem hmem)).1 (hcode.symm.trans h) c hmem
  exact (cuEntryClass_sound (hall e he).1).2 (hc.trans (congrArg some hprop))

/-- The class of a list of well-formed entries that were read. -/
theorem cuClassify_read (hne : es ≠ []) (hmax : es.length ≤ cuMaxEntries)
    (hwf : ∀ e ∈ es, e.WellFormed)
    (hread : ∀ e ∈ es, e.observedStatus = 0 ∨ e.observedStatus = 1) :
    ((cuClassify es).classCode = .allOld ↔ ∀ e ∈ es, e.observed = some e.old) ∧
      ((cuClassify es).classCode = .allProposed ↔ ∀ e ∈ es, e.observed = some e.proposed) ∧
      ((cuClassify es).classCode = .third ↔ ¬(∀ e ∈ es, e.observed = some e.old) ∧
        ¬∀ e ∈ es, e.observed = some e.proposed) := by
  have hall : ∀ e ∈ es, Settled cuEntryClass e := fun e he => by
    refine (settled_iff (hwf e he).lengths).2 ?_
    rcases hread e he with h | h <;> rw [h] <;> decide
  have hcode : (cuClassify es).classCode = classOf (es.filterMap cuEntryClass) :=
    (cuClassify_classCode hne hmax).trans (cuLoop_of_settled hall _ _)
  have hold : (cuClassify es).classCode = .allOld ↔ ∀ e ∈ es, e.observed = some e.old := by
    refine ⟨cuClassify_old_only, fun h => ?_⟩
    rw [hcode, classOf_eq_allOld]
    intro c hc
    obtain ⟨e, he, hclass⟩ := List.mem_filterMap.1 hc
    rw [cuEntryClass_complete (hwf e he) (hread e he), h e he, if_pos rfl, if_neg] at hclass
    · exact (Option.some.inj hclass).symm
    · exact fun heq => (hwf e he).changes (Option.some.inj heq)
  have hprop : (cuClassify es).classCode = .allProposed ↔
      ∀ e ∈ es, e.observed = some e.proposed := by
    refine ⟨cuClassify_proposed_only, fun h => ?_⟩
    obtain ⟨e, he⟩ := List.exists_mem_of_ne_nil _ hne
    obtain ⟨c, -, hmem⟩ := mem_classes he (hall e he)
    rw [hcode, classOf_eq_allProposed (List.ne_nil_of_mem hmem)]
    intro c hc
    obtain ⟨e, he, hclass⟩ := List.mem_filterMap.1 hc
    rw [cuEntryClass_complete (hwf e he) (hread e he), h e he, if_pos rfl] at hclass
    exact (Option.some.inj hclass).symm
  refine ⟨hold, hprop, ?_⟩
  rw [← hold, ← hprop, hcode]
  rcases classOf_cases (es.filterMap cuEntryClass) with h | h | h <;> rw [h] <;> decide

/-- The order of entries whose lengths are valid does not matter. -/
theorem cuClassify_perm (hlengths : ∀ e ∈ es, e.LengthsValid) (h : es.Perm es') :
    (cuClassify es).classCode = (cuClassify es').classCode := by
  have hlength := h.length_eq
  by_cases hcount : es.length = 0 ∨ cuMaxEntries < es.length
  · have hcount' := hcount
    rw [hlength] at hcount'
    unfold cuClassify classifyWith
    rw [if_pos hcount, if_pos hcount']
  · have hcount' := hcount
    rw [hlength] at hcount'
    rw [List.length_eq_zero_iff, not_or, Nat.not_lt] at hcount hcount'
    rw [cuClassify_classCode hcount.1 hcount.2, cuClassify_classCode hcount'.1 hcount'.2]
    have hlengths' : ∀ e ∈ es', e.LengthsValid := fun e he => hlengths e (h.mem_iff.2 he)
    by_cases hall : ∀ e ∈ es, Settled cuEntryClass e
    · have hall' : ∀ e ∈ es', Settled cuEntryClass e := fun e he => hall e (h.mem_iff.2 he)
      rw [cuLoop_of_settled hall, cuLoop_of_settled hall']
      exact classOf_perm (h.filterMap _)
    · have hall' : ¬∀ e ∈ es', Settled cuEntryClass e :=
        fun hall' => hall fun e he => hall' e (h.mem_iff.1 he)
      rw [cuLoop_retry hlengths hall, cuLoop_retry hlengths' hall']

theorem stateCuClassify_eq (es : List CuEntry) : stateCuClassify es = cuClassify es :=
  congrArg (classifyWith · es) (funext cuOne_eq)

/-- What the class of a list of entries says. -/
structure ClassifierExact : Prop where
  /-- Of entries that were read, one at least. -/
  read : ∀ es : List CuEntry, es ≠ [] → es.length ≤ cuMaxEntries → (∀ e ∈ es, e.WellFormed) →
    (∀ e ∈ es, e.observedStatus = 0 ∨ e.observedStatus = 1) →
    ((cuClassify es).classCode = .allOld ↔ ∀ e ∈ es, e.observed = some e.old) ∧
      ((cuClassify es).classCode = .allProposed ↔ ∀ e ∈ es, e.observed = some e.proposed) ∧
      ((cuClassify es).classCode = .third ↔ ¬(∀ e ∈ es, e.observed = some e.old) ∧
        ¬∀ e ∈ es, e.observed = some e.proposed)
  oldOnly : ∀ es : List CuEntry, (cuClassify es).classCode = .allOld →
    ∀ e ∈ es, e.observed = some e.old
  proposedOnly : ∀ es : List CuEntry, (cuClassify es).classCode = .allProposed →
    ∀ e ∈ es, e.observed = some e.proposed
  /-- In any order. -/
  permuted : ∀ es es' : List CuEntry, (∀ e ∈ es, e.WellFormed) → es.Perm es' →
    (cuClassify es).classCode = (cuClassify es').classCode
  agree : ∀ es : List CuEntry, stateCuClassify es = cuClassify es

/-- **Both classifiers say exactly what the observations of a list with an entry say.** -/
theorem classifier_exact : ClassifierExact where
  read := fun _ hne hmax hwf hread => cuClassify_read hne hmax hwf hread
  oldOnly := fun _ h => cuClassify_old_only h
  proposedOnly := fun _ h => cuClassify_proposed_only h
  permuted := fun _ _ hwf h => cuClassify_perm (fun e he => (hwf e he).lengths) h
  agree := stateCuClassify_eq

/-- An entry whose value of one byte is replaced by one of two, with the value read back. -/
def sampleEntry (len : UInt16) (byte : UInt8) : CuEntry where
  oldPresent := 1
  proposedPresent := 1
  keyLen := 1
  oldLen := 1
  proposedLen := 2
  key := Vector.replicate 255 0
  oldBytes := Vector.replicate 256 1
  proposedBytes := Vector.replicate 256 2
  observedStatus := 0
  observedLen := len
  observedBytes := Vector.replicate 256 byte

/-- Two entries, both read back as replaced, or only one. -/
theorem classifier_exact_pair :
    (cuClassify [sampleEntry 2 2, sampleEntry 2 2]).classCode = .allProposed ∧
      (cuClassify [sampleEntry 2 2, sampleEntry 1 1]).classCode = .third := by
  have hwf : (sampleEntry 2 2).WellFormed ∧ (sampleEntry 1 1).WellFormed :=
    ⟨⟨by decide, by decide +kernel⟩, by decide, by decide +kernel⟩
  have hold : (sampleEntry 1 1).observed ≠ some (sampleEntry 1 1).proposed := by decide +kernel
  have hnew : (sampleEntry 2 2).observed ≠ some (sampleEntry 2 2).old := by decide +kernel
  have hboth := (classifier_exact.read [sampleEntry 2 2, sampleEntry 2 2] nofun (by decide)
    (by simp [hwf.1]) (by simp [sampleEntry])).2.1
  have hone := (classifier_exact.read [sampleEntry 2 2, sampleEntry 1 1] nofun (by decide)
    (by simp [hwf.1, hwf.2]) (by simp [sampleEntry])).2.2
  refine ⟨hboth.2 ?_, hone.2 ⟨fun h => hnew (h _ List.mem_cons_self), fun h => ?_⟩⟩
  · rw [List.forall_mem_cons, List.forall_mem_singleton]
    exact ⟨rfl, rfl⟩
  · exact hold (h _ (List.mem_cons_of_mem _ List.mem_cons_self))

/-- A list without entries is corrupt, though each of its observations is the old value. -/
theorem classifier_empty : ¬∀ es : List CuEntry, es.length ≤ cuMaxEntries →
    (∀ e ∈ es, e.WellFormed) → (∀ e ∈ es, e.observedStatus = 0 ∨ e.observedStatus = 1) →
    ((cuClassify es).classCode = .allOld ↔ ∀ e ∈ es, e.observed = some e.old) := by
  intro h
  have hempty := h [] (Nat.zero_le _) (fun e he => absurd he List.not_mem_nil)
    (fun e he => absurd he List.not_mem_nil)
  exact absurd (hempty.2 fun e he => absurd he List.not_mem_nil) (by decide)

end Classifiers

end Ninlil.R7Frag
