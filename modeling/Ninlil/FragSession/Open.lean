import Ninlil.R7Frag.Wire

/-!
# Opening the frames of a session

`r7_frag_wire.c` as far as a receiving session uses it: the outer DATA frame of one hop, and inside
it the sealed end-to-end message of a START, a CONT or an acknowledgement.

* `Provider`: the hash and the AEAD that the wire layer calls;
* `parseStartPt`, `parseContPt`, `parseAckPt`: the plaintexts;
* `openE2eCommon`, `openE2eStart`, `openE2eCont`, `openE2eAck`, `openOuterData`;
* `structuralE2eHeader`: the checks on a message before its AEAD;
* `sealOuterLinkAck`: the acknowledgement of a hop.

The buffers of a session are its own, so no two of them overlap and none is too short.
-/

namespace Ninlil.FragSession

open Bytes R7Frag

/-! ### Provider and fields -/

abbrev Key := Vector UInt8 16

abbrev Iv := Vector UInt8 12

/-- The hash and the AEAD of a `ninlil_r7_crypto_provider`, with the statuses of the wire layer.
An AEAD takes the key, the nonce, the associated data and the bytes to open or seal. -/
structure Provider extends R7Frag.Provider where
  aes128GcmOpen : Key → List UInt8 → List UInt8 → List UInt8 → Except Status (List UInt8)
  aes128GcmSeal : Key → List UInt8 → List UInt8 → List UInt8 → Except Status (List UInt8)

/-- `NINLIL_R7_FRAG_PROFILE_ID`. -/
def profileId : UInt8 := 0x11
/-- `NINLIL_R7_FRAG_OUTER_KIND_DATA`. -/
def outerKindData : UInt8 := 1
/-- `NINLIL_R7_FRAG_OUTER_KIND_LINK_ACK`. -/
def outerKindLinkAck : UInt8 := 2
/-- `NINLIL_R7_FRAG_E2E_TYPE_SINGLE`. -/
def e2eTypeSingle : UInt8 := 1
/-- `NINLIL_R7_FRAG_E2E_TYPE_START`. -/
def e2eTypeStart : UInt8 := 2
/-- `NINLIL_R7_FRAG_E2E_TYPE_CONT`. -/
def e2eTypeCont : UInt8 := 3
/-- `NINLIL_R7_FRAG_E2E_TYPE_ACK`. -/
def e2eTypeAck : UInt8 := 4
/-- `NINLIL_R7_FRAG_TAG_LEN`. -/
def tagLen : ℕ := 16
/-- `NINLIL_R7_FRAG_E2E_AAD_LEN`. -/
def e2eAadLen : ℕ := 14
/-- `NINLIL_R7_FRAG_OUTER_AAD_LEN`. -/
def outerAadLen : ℕ := 19

/-- The byte at a place. -/
def u8At (bs : List UInt8) (offset : ℕ) : UInt8 := bs.getD offset 0

/-- The big-endian number of two bytes at a place. -/
def u16At (bs : List UInt8) (offset : ℕ) : ℕ := (loadU16Be (bs.drop offset)).1

/-- The big-endian number of four bytes at a place. -/
def u32At (bs : List UInt8) (offset : ℕ) : UInt32 := (loadU32Be (bs.drop offset)).1

/-- The big-endian number of eight bytes at a place. -/
def u64At (bs : List UInt8) (offset : ℕ) : UInt64 := (loadU64Be (bs.drop offset)).1

/-- `n` bytes at a place, as a value of fixed width. -/
def bytesAt (bs : List UInt8) (offset n : ℕ) : Vector UInt8 n :=
  .ofFn fun i => u8At bs (offset + i.val)

/-- `ninlil_r7_frag_counter_ok`. -/
def counterOk (c : UInt64) : Bool := c != 0 && c != u64Max

/-- `ninlil_r7_crypto_nonce_from_counter` for a counter that is neither zero nor the maximum. -/
def nonceFromCounter (staticIv : Iv) (counter : UInt64) : List UInt8 :=
  staticIv.toList.take 4
    ++ List.zipWith (fun a b => a ^^^ b) (staticIv.toList.drop 4) (storeU64Be counter)

/-- `ninlil_r7_frag_e2e_fields`. -/
structure E2eFields where
  e2eType : UInt8
  e2eContextId : UInt32
  e2eCounter : UInt64
  deriving DecidableEq

/-- `ninlil_r7_frag_outer_data_fields`. -/
structure OuterDataFields where
  ackRequested : Bool
  hopRemaining : UInt8
  hopContextId : UInt32
  hopCounter : UInt64
  routeHandle : ℕ
  routeGeneration : ℕ
  deriving DecidableEq

/-! ### Plaintexts -/

/-- `ninlil_r7_frag_parse_start_pt`. -/
def parseStartPt (pt : List UInt8) : Except Status (StartBody × List UInt8) :=
  if pt.length < 65 then .error .lengthClass
  else
    let s := pt.length - 64
    if s < 1 ∨ s > sMax then .error .lengthClass
    else
      let cand : StartBody :=
        { transferId := bytesAt pt 0 16
          transferHandle := u64At pt 16
          totalLen := (u32At pt 24).toNat
          fragCount := u16At pt 28
          continuationUnit := u16At pt 30
          contentDigest := bytesAt pt 32 32 }
      if handleOk cand.transferHandle = false then .error .structural
      else
        match planValidate cand.totalLen s cand.fragCount cand.continuationUnit with
        | .ok => .ok (cand, pt.drop 64)
        | st => .error st

/-- `ninlil_r7_frag_parse_cont_pt`. -/
def parseContPt (pt : List UInt8) : Except Status (ContBody × List UInt8) :=
  if pt.length < 11 then .error .lengthClass
  else
    let c := pt.length - 10
    if c < 1 ∨ c > cMax then .error .lengthClass
    else
      let cand : ContBody := ⟨u64At pt 0, u16At pt 8⟩
      if handleOk cand.transferHandle = false then .error .structural
      else if cand.fragIndex < 1 then .error .structural
      else .ok (cand, pt.drop 10)

/-- The rules of `ninlil_r7_frag_pack_ack_pt` on a body. -/
def ackBodyOk (body : AckBody) : Bool :=
  handleOk body.transferHandle && decide (countMin ≤ body.fragCount)
    && decide (body.fragCount ≤ countMax)
    && (body.receivedBitmap &&& ~~~(fullBitmap body.fragCount)) == 0
    && (if body.status = statusPartial then
        body.reason == reasonNone && body.receivedBitmap.getLsbD 0
          && body.receivedBitmap != fullBitmap body.fragCount
      else if body.status = statusComplete then
        body.reason == reasonNone && body.receivedBitmap == fullBitmap body.fragCount
      else if body.status = statusAbort then
        decide (reasonConflict ≤ body.reason) && decide (body.reason ≤ reasonFenced)
          && body.receivedBitmap == 0
      else false)

/-- `ninlil_r7_frag_parse_ack_pt`. -/
def parseAckPt (pt : List UInt8) : Except Status AckBody :=
  let cand : AckBody :=
    ⟨u64At pt 0, u16At pt 8, BitVec.ofNat 16 (u16At pt 10), u8At pt 12, u8At pt 13⟩
  if ackBodyOk cand then .ok cand else .error .structural

/-! ### End-to-end messages -/

/-- `ninlil_r7_frag_open_e2e_common`. -/
def openE2eCommon (provider : Provider) (key : Key) (staticIv : Iv) (expectType : UInt8)
    (blob : List UInt8) (blobMin blobMax : ℕ) : Except Status (E2eFields × List UInt8) :=
  if provider.valid = false then .error .invalidArgument
  else if blob.length < blobMin ∨ blob.length > blobMax then .error .lengthClass
  else if blob.length < e2eAadLen + tagLen then .error .lengthClass
  else if u8At blob 0 ≠ profileId then .error .structural
  else if u8At blob 1 &&& 0x0F ≠ 0 then .error .structural
  else if u8At blob 1 >>> 4 ≠ expectType then .error .structural
  else
    let ctx := u32At blob 2
    let ctr := u64At blob 6
    if contextOk ctx = false ∨ counterOk ctr = false then .error .structural
    else
      match provider.aes128GcmOpen key (nonceFromCounter staticIv ctr) (blob.take e2eAadLen)
          (blob.drop e2eAadLen) with
      | .error st => .error st
      | .ok pt =>
        if pt.length ≠ blob.length - e2eAadLen - tagLen then .error .internalContract
        else .ok (⟨expectType, ctx, ctr⟩, pt)

/-- `ninlil_r7_frag_open_e2e_start`. -/
def openE2eStart (provider : Provider) (key : Key) (staticIv : Iv) (blob : List UInt8) :
    Except Status (E2eFields × StartBody × List UInt8) :=
  if blob.length < 95 ∨ blob.length - e2eAadLen - tagLen > 190 then .error .lengthClass
  else
    match openE2eCommon provider key staticIv e2eTypeStart blob 95 220 with
    | .error st => .error st
    | .ok (fields, pt) =>
      match parseStartPt pt with
      | .error st => .error st
      | .ok (body, chunk) => .ok (fields, body, chunk)

/-- `ninlil_r7_frag_open_e2e_cont`. -/
def openE2eCont (provider : Provider) (key : Key) (staticIv : Iv) (blob : List UInt8) :
    Except Status (E2eFields × ContBody × List UInt8) :=
  if blob.length < 41 ∨ blob.length - e2eAadLen - tagLen > 190 then .error .lengthClass
  else
    match openE2eCommon provider key staticIv e2eTypeCont blob 41 220 with
    | .error st => .error st
    | .ok (fields, pt) =>
      match parseContPt pt with
      | .error st => .error st
      | .ok (body, chunk) => .ok (fields, body, chunk)

/-- `ninlil_r7_frag_open_e2e_ack`. -/
def openE2eAck (provider : Provider) (key : Key) (staticIv : Iv) (blob : List UInt8) :
    Except Status (E2eFields × AckBody) :=
  match openE2eCommon provider key staticIv e2eTypeAck blob 44 44 with
  | .error st => .error st
  | .ok (fields, pt) =>
    match parseAckPt pt with
    | .error st => .error st
    | .ok body => .ok (fields, body)

/-- `ninlil_r7_frag_structural_e2e_header`. -/
def structuralE2eHeader (blob : List UInt8) : Except Status E2eFields :=
  if blob.length < 31 ∨ blob.length > 220 then .error .lengthClass
  else if u8At blob 0 ≠ profileId then .error .structural
  else if u8At blob 1 &&& 0x0F ≠ 0 then .error .structural
  else
    let type := u8At blob 1 >>> 4
    let ctx := u32At blob 2
    let ctr := u64At blob 6
    if type < e2eTypeSingle ∨ type > e2eTypeAck then .error .structural
    else if contextOk ctx = false ∨ counterOk ctr = false then .error .structural
    else if type = e2eTypeStart ∧ (blob.length < 95 ∨ blob.length > 220) then .error .lengthClass
    else if type = e2eTypeCont ∧ (blob.length < 41 ∨ blob.length > 220) then .error .lengthClass
    else if type = e2eTypeAck ∧ blob.length ≠ 44 then .error .lengthClass
    else .ok ⟨type, ctx, ctr⟩

/-! ### Outer frames -/

/-- The fields of an outer DATA frame that stand in the clear. -/
def outerDataFields (frame : List UInt8) : OuterDataFields where
  ackRequested := u8At frame 1 &&& 0x01 != 0
  hopRemaining := u8At frame 2
  hopContextId := u32At frame 3
  hopCounter := u64At frame 7
  routeHandle := u16At frame 15
  routeGeneration := u16At frame 17

/-- The route fields are all absent or all present. -/
def OuterDataFields.routeOk (f : OuterDataFields) : Bool :=
  (f.routeHandle == 0 && f.routeGeneration == 0 && f.hopRemaining == 0)
    || (f.routeHandle != 0 && f.routeGeneration != 0 && decide (1 ≤ f.hopRemaining))

/-- `ninlil_r7_frag_validate_outer_data`. -/
def validateOuterData (f : OuterDataFields) : Status :=
  if contextOk f.hopContextId = false ∨ counterOk f.hopCounter = false then .structural
  else if f.routeOk then .ok
  else .structural

/-- `ninlil_r7_frag_open_outer_data`. -/
def openOuterData (provider : Provider) (key : Key) (staticIv : Iv) (frame : List UInt8) :
    Except Status (OuterDataFields × List UInt8) :=
  if provider.valid = false then .error .invalidArgument
  else if frame.length < 66 ∨ frame.length > 255 then .error .lengthClass
  else if u8At frame 0 ≠ profileId then .error .structural
  else if u8At frame 1 >>> 4 ≠ outerKindData then .error .structural
  else if u8At frame 1 &&& 0x0E ≠ 0 then .error .structural
  else
    match validateOuterData (outerDataFields frame) with
    | .ok =>
      match provider.aes128GcmOpen key (nonceFromCounter staticIv (u64At frame 7))
          (frame.take outerAadLen) (frame.drop outerAadLen) with
      | .error st => .error st
      | .ok blob =>
        if blob.length ≠ frame.length - outerAadLen - tagLen then .error .internalContract
        else .ok (outerDataFields frame, blob)
    | st => .error st

/-- `ninlil_r7_frag_link_ack_body`. -/
structure LinkAckBody where
  ackedHopContextId : UInt32
  ackBaseCounter : UInt64
  ackBitmap : BitVec 16
  ackCode : UInt8

/-- `ninlil_r7_frag_link_ack_body_validate`. -/
def linkAckBodyOk (body : LinkAckBody) : Bool :=
  contextOk body.ackedHopContextId && counterOk body.ackBaseCounter && body.ackCode == 0
    && body.ackBitmap.getLsbD 0
    && (List.range 16).all fun i =>
      decide (i < body.ackBaseCounter.toNat) || !body.ackBitmap.getLsbD i

/-- `ninlil_r7_frag_seal_outer_link_ack`. -/
def sealOuterLinkAck (provider : Provider) (key : Key) (staticIv : Iv) (hopContextId : UInt32)
    (hopCounter : UInt64) (body : LinkAckBody) : Except Status (List UInt8) :=
  if provider.valid = false then .error .invalidArgument
  else if contextOk hopContextId = false ∨ counterOk hopCounter = false then .error .structural
  else if linkAckBodyOk body = false then .error .structural
  else
    let aad := [profileId, outerKindLinkAck <<< 4, 0] ++ storeU32Be hopContextId
      ++ storeU64Be hopCounter ++ [0, 0, 0, 0]
    let pt := storeU32Be body.ackedHopContextId ++ storeU64Be body.ackBaseCounter
      ++ storeU16Be body.ackBitmap.toNat ++ [body.ackCode, 0]
    match provider.aes128GcmSeal key (nonceFromCounter staticIv hopCounter) aad pt with
    | .error st => .error st
    | .ok sealed =>
      if sealed.length ≠ 32 then .error .internalContract else .ok (aad ++ sealed)

/-! ### What opens -/

variable {provider : Provider} {key : Key} {staticIv : Iv} {blob pt : List UInt8}

/-- A message that opens names its fields in the clear. -/
theorem openE2eCommon_ok {expectType : UInt8} {blobMin blobMax : ℕ} {fields : E2eFields}
    (h : openE2eCommon provider key staticIv expectType blob blobMin blobMax = .ok (fields, pt)) :
    fields = ⟨expectType, u32At blob 2, u64At blob 6⟩ ∧ u8At blob 1 >>> 4 = expectType ∧
      contextOk fields.e2eContextId = true := by
  unfold openE2eCommon at h
  split_ifs at h with hprovider hlen haad hprofile hlow htype
  dsimp only at h
  split_ifs at h with hclass
  split at h
  · cases h
  · split_ifs at h
    cases h
    simp only [not_or, Bool.not_eq_false] at hclass
    exact ⟨rfl, not_not.1 htype, hclass.1⟩

/-- The plaintext of a START that is accepted has a valid handle and plan. -/
theorem parseStartPt_ok {body : StartBody} {chunk : List UInt8}
    (h : parseStartPt pt = .ok (body, chunk)) : handleOk body.transferHandle = true ∧
      planValidate body.totalLen chunk.length body.fragCount body.continuationUnit = .ok := by
  unfold parseStartPt at h
  dsimp only at h
  split_ifs at h with hlen hs hhandle
  split at h
  · rename_i hplan
    cases h
    exact ⟨by simpa using hhandle, by rwa [List.length_drop]⟩
  · cases h

/-- The plaintext of a CONT that is accepted has a valid handle. -/
theorem parseContPt_ok {body : ContBody} {chunk : List UInt8}
    (h : parseContPt pt = .ok (body, chunk)) : handleOk body.transferHandle = true := by
  unfold parseContPt at h
  dsimp only at h
  split_ifs at h with hlen hc hhandle
  cases h
  simpa using hhandle

/-- **A START that opens** names its fields in the clear and has a valid handle and plan. -/
theorem openE2eStart_ok {fields : E2eFields} {body : StartBody} {chunk : List UInt8}
    (h : openE2eStart provider key staticIv blob = .ok (fields, body, chunk)) :
    fields = ⟨e2eTypeStart, u32At blob 2, u64At blob 6⟩ ∧ u8At blob 1 >>> 4 = e2eTypeStart ∧
      contextOk fields.e2eContextId = true ∧ handleOk body.transferHandle = true ∧
      planValidate body.totalLen chunk.length body.fragCount body.continuationUnit = .ok := by
  unfold openE2eStart at h
  split_ifs at h
  split at h
  · cases h
  · rename_i fields' pt hopen
    split at h
    · cases h
    · rename_i body' chunk' hparse
      cases h
      obtain ⟨hfields, htype, hctx⟩ := openE2eCommon_ok hopen
      exact ⟨hfields, htype, hctx, parseStartPt_ok hparse⟩

/-- **A CONT that opens** names its fields in the clear and has a valid handle. -/
theorem openE2eCont_ok {fields : E2eFields} {body : ContBody} {chunk : List UInt8}
    (h : openE2eCont provider key staticIv blob = .ok (fields, body, chunk)) :
    fields = ⟨e2eTypeCont, u32At blob 2, u64At blob 6⟩ ∧ u8At blob 1 >>> 4 = e2eTypeCont ∧
      contextOk fields.e2eContextId = true ∧ handleOk body.transferHandle = true := by
  unfold openE2eCont at h
  split_ifs at h
  split at h
  · cases h
  · rename_i fields' pt hopen
    split at h
    · cases h
    · rename_i body' chunk' hparse
      cases h
      obtain ⟨hfields, htype, hctx⟩ := openE2eCommon_ok hopen
      exact ⟨hfields, htype, hctx, parseContPt_ok hparse⟩

/-- **The header** of a message is what stands in the clear. -/
theorem structuralE2eHeader_ok {fields : E2eFields} (h : structuralE2eHeader blob = .ok fields) :
    fields = ⟨u8At blob 1 >>> 4, u32At blob 2, u64At blob 6⟩ := by
  unfold structuralE2eHeader at h
  dsimp only at h
  split_ifs at h
  cases h
  rfl

end Ninlil.FragSession
