import Ninlil.R7Frag.Lane

/-!
# Link groups

The link groups of `r7_frag_core.c`: an encoded message that a hop sends, again and again, until a
link acknowledgement covers one of its frames.

* `linkGroupAdmit`, `linkGroupNoteAir`, `linkGroupApplyAck`, `linkGroupUnackedSuccess`;
* `linkGroupAdmit_cases`, `TouchesGroup`: all that each of them can do to the table.

The counters of the frames in the air are no part of a group here: whether an acknowledgement
covers one of them is given to `linkGroupApplyAck`.
-/

namespace Ninlil.R7Frag

variable {P : Profile}

/-- `NINLIL_R7_FRAG_LINK_GROUP_TTL_MS`. -/
def linkGroupTtlMs : UInt64 := 15000
/-- `NINLIL_R7_FRAG_LINK_ACK_WAIT_MS`. -/
def linkAckWaitMs : UInt64 := 3000
/-- `NINLIL_R7_FRAG_LINK_RETRY_INTERVAL_MS`. -/
def linkRetryIntervalMs : UInt64 := 500
/-- `NINLIL_R7_FRAG_MAX_HOP_ATTEMPTS`. -/
def maxHopAttempts : UInt8 := 4

/-- `ninlil_r7_frag_counter_ok`. -/
def counterOk (c : UInt64) : Bool := c != 0 && c != u64Max

/-- The engine with one link group overwritten. -/
def Engine.setLink (eng : Engine P) (group : Fin linkGroupSlots) (G : LinkGroup) : Engine P :=
  { eng with links := Function.update eng.links group G }

/-- `ninlil_r7_frag_link_group_admit`. -/
def linkGroupAdmit (eng : Engine P) (hopDataContextId : UInt32) (ackRequested : UInt8)
    (e2eCounterFixed : UInt64) (e2eBlob : List UInt8) (enclosingOwnerDeadline : UInt64) :
    Status × Engine P × Option (Fin linkGroupSlots) :=
  if ackRequested ≠ 0 ∧ ackRequested ≠ 1 then (.structural, eng, none)
  else if contextOk hopDataContextId = false ∨ counterOk e2eCounterFixed = false then
    (.structural, eng, none)
  else if e2eBlob.length < 31 ∨ e2eBlob.length > 220 then (.lengthClass, eng, none)
  else
    match checkedAddU64 eng.nowMono linkGroupTtlMs with
    | none => (.resource, eng, none)
    | some deadline =>
      match (List.finRange linkGroupSlots).find? fun i => !(eng.links i).inUse with
      | none => (.resource, eng, none)
      | some i =>
        (.ok, eng.setLink i
          { LinkGroup.zero with
            inUse := true
            ackRequested
            hopDataContextId
            e2eCounterFixed
            e2eBlob
            groupAbsoluteDeadline :=
              if deadline > enclosingOwnerDeadline ∧ enclosingOwnerDeadline ≠ 0 then
                enclosingOwnerDeadline
              else deadline
            enclosingOwnerDeadline }, some i)

/-- `ninlil_r7_frag_link_group_note_air`. -/
def linkGroupNoteAir (eng : Engine P) (group : ℕ) (hopCounter txMono : UInt64) :
    Status × Engine P :=
  if h : group < linkGroupSlots then
    let G := eng.links ⟨group, h⟩
    if G.inUse = false then (.invalidArgument, eng)
    else if G.completed ≠ 0 then (.structural, eng)
    else if G.hopAttempts ≥ maxHopAttempts then (.resource, eng)
    else if counterOk hopCounter = false then (.structural, eng)
    else
      let G := { G with pendingCount := G.pendingCount + 1, hopAttempts := G.hopAttempts + 1 }
      if G.ackRequested ≠ 0 then
        match checkedAddU64 txMono linkAckWaitMs, checkedAddU64 txMono linkRetryIntervalMs with
        | some ackDeadline, some intervalAt =>
          (.ok, eng.setLink ⟨group, h⟩
            { G with eligibleAt := if ackDeadline > intervalAt then ackDeadline else intervalAt })
        | _, _ => (.timeout, eng.setLink ⟨group, h⟩ G)
      else (.ok, eng.setLink ⟨group, h⟩ { G with eligibleAt := 0, completed := 1 })
  else (.invalidArgument, eng)

/-- `ninlil_r7_frag_link_group_apply_ack` of a body that `link_ack_body_validate` judged, and that
covers a frame of the group or none. -/
def linkGroupApplyAck (eng : Engine P) (group : ℕ) (validated : Status)
    (ackedHopContextId : UInt32) (covered : Bool) : Status × Engine P :=
  if h : group < linkGroupSlots then
    let G := eng.links ⟨group, h⟩
    if G.inUse = false then (.invalidArgument, eng)
    else if validated ≠ .ok then (validated, eng)
    else if ackedHopContextId ≠ G.hopDataContextId then (.structural, eng)
    else if covered then (.ok, eng.setLink ⟨group, h⟩ { G with completed := 1 })
    else (.ok, eng)
  else (.invalidArgument, eng)

/-- `ninlil_r7_frag_link_group_unacked_success`. -/
def linkGroupUnackedSuccess (eng : Engine P) (group : ℕ) : Status × Engine P :=
  if h : group < linkGroupSlots then
    let G := eng.links ⟨group, h⟩
    if G.inUse = false then (.invalidArgument, eng)
    else if G.ackRequested ≠ 0 then (.structural, eng)
    else (.ok, eng.setLink ⟨group, h⟩ { G with completed := 1 })
  else (.invalidArgument, eng)

/-! ### All that a call can do -/

/-- An admission writes a free group, and only with a blob of 31 to 220 bytes. -/
theorem linkGroupAdmit_cases (eng : Engine P) (hopDataContextId : UInt32) (ackRequested : UInt8)
    (e2eCounterFixed : UInt64) (e2eBlob : List UInt8) (enclosingOwnerDeadline : UInt64) :
    (linkGroupAdmit eng hopDataContextId ackRequested e2eCounterFixed e2eBlob
        enclosingOwnerDeadline).2.1 = eng ∨
      ∃ i G, (linkGroupAdmit eng hopDataContextId ackRequested e2eCounterFixed e2eBlob
          enclosingOwnerDeadline).2.1 = eng.setLink i G ∧ (eng.links i).inUse = false ∧
        G.inUse = true ∧ 31 ≤ G.e2eBlob.length ∧ G.e2eBlob.length ≤ 220 := by
  unfold linkGroupAdmit
  split_ifs with hack hcontext hblob
  · exact .inl rfl
  · exact .inl rfl
  · exact .inl rfl
  · cases checkedAddU64 eng.nowMono linkGroupTtlMs with
    | none => exact .inl rfl
    | some deadline =>
      cases hfind : (List.finRange linkGroupSlots).find? fun i => !(eng.links i).inUse with
      | none => exact .inl rfl
      | some i =>
        have hfree : (eng.links i).inUse = false := by simpa using List.find?_some hfind
        have hmin : 31 ≤ e2eBlob.length := by omega
        have hmax : e2eBlob.length ≤ 220 := by omega
        exact .inr ⟨i, _, rfl, hfree, rfl, hmin, hmax⟩

/-- One group in use may have changed, but not its blob. -/
def TouchesGroup (eng eng' : Engine P) : Prop :=
  eng' = eng ∨ ∃ i G, eng' = eng.setLink i G ∧ (eng.links i).inUse = true ∧ G.inUse = true ∧
    G.e2eBlob = (eng.links i).e2eBlob

theorem linkGroupNoteAir_touches (eng : Engine P) (group : ℕ) (hopCounter txMono : UInt64) :
    TouchesGroup eng (linkGroupNoteAir eng group hopCounter txMono).2 := by
  unfold linkGroupNoteAir
  by_cases h : group < linkGroupSlots
  · rw [dif_pos h]
    dsimp only
    split_ifs with huse hdone hattempts hcounter hack
    · exact .inl rfl
    · exact .inl rfl
    · exact .inl rfl
    · exact .inl rfl
    · have hin : (eng.links ⟨group, h⟩).inUse = true := by simpa using huse
      cases checkedAddU64 txMono linkAckWaitMs with
      | none => exact .inr ⟨⟨group, h⟩, _, rfl, hin, hin, rfl⟩
      | some ackDeadline =>
        cases checkedAddU64 txMono linkRetryIntervalMs with
        | none | some => exact .inr ⟨⟨group, h⟩, _, rfl, hin, hin, rfl⟩
    · have hin : (eng.links ⟨group, h⟩).inUse = true := by simpa using huse
      exact .inr ⟨⟨group, h⟩, _, rfl, hin, hin, rfl⟩
  · rw [dif_neg h]
    exact .inl rfl

theorem linkGroupApplyAck_touches (eng : Engine P) (group : ℕ) (validated : Status)
    (ackedHopContextId : UInt32) (covered : Bool) :
    TouchesGroup eng (linkGroupApplyAck eng group validated ackedHopContextId covered).2 := by
  unfold linkGroupApplyAck
  by_cases h : group < linkGroupSlots
  · rw [dif_pos h]
    dsimp only
    split_ifs with huse hvalid hcontext hcovered
    · exact .inl rfl
    · exact .inl rfl
    · exact .inl rfl
    · have hin : (eng.links ⟨group, h⟩).inUse = true := by simpa using huse
      exact .inr ⟨⟨group, h⟩, _, rfl, hin, hin, rfl⟩
    · exact .inl rfl
  · rw [dif_neg h]
    exact .inl rfl

theorem linkGroupUnackedSuccess_touches (eng : Engine P) (group : ℕ) :
    TouchesGroup eng (linkGroupUnackedSuccess eng group).2 := by
  unfold linkGroupUnackedSuccess
  by_cases h : group < linkGroupSlots
  · rw [dif_pos h]
    dsimp only
    split_ifs with huse hack
    · exact .inl rfl
    · exact .inl rfl
    · have hin : (eng.links ⟨group, h⟩).inUse = true := by simpa using huse
      exact .inr ⟨⟨group, h⟩, _, rfl, hin, hin, rfl⟩
  · rw [dif_neg h]
    exact .inl rfl

end Ninlil.R7Frag
