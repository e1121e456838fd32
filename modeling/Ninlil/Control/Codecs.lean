import Ninlil.Control.Ncl1
import Ninlil.Lib.Layout

/-!
# The two control codecs, in both directions

* `decodeFrame`: `ninlil_model_control_frame_decode`, the exact decoder of an NCG1 frame;
* `decodeFrame_encodeFrame`, `encodeFrame_decodeFrame`: frames and byte strings correspond;
* `Ncl1Message`: an NCL1 message with its whole header, which the encoder checks;
* `decodeNcl1_encodeNcl1`, `encodeNcl1_decodeNcl1`: so do messages and payloads;
* `control_codecs`: all four.
-/

namespace Ninlil.Control

open Bytes

/-! ### Fields -/

section Fields

variable {bytes : List UInt8} {o n : ℕ}

theorem encode_decodeU16Be (h : o + 2 ≤ bytes.length) :
    encodeU16Be (decodeU16Be bytes o) = slice bytes o 2 := encode_getU16Be h

theorem encode_decodeU32Be (h : o + 4 ≤ bytes.length) :
    encodeU32Be (decodeU32Be bytes o) = slice bytes o 4 := encode_getU32Be h

theorem encode_decodeU64Be (h : o + 8 ≤ bytes.length) :
    encodeU64Be (decodeU64Be bytes o) = slice bytes o 8 := encode_getU64Be h

theorem getD_of_slice {x : UInt8} (h : slice bytes o 1 = [x]) : bytes.getD o 0 = x := by
  have hget := @getElem?_slice bytes o 1 0
  rw [h] at hget
  simp only [List.getElem?_cons_zero, Nat.zero_lt_one, if_true, Nat.add_zero] at hget
  rw [List.getD_eq_getElem?_getD, ← hget]
  rfl

theorem slice_one (h : o + 1 ≤ bytes.length) : slice bytes o 1 = [bytes.getD o 0] := by
  have hlen := length_slice_of_le h
  obtain ⟨x, hx⟩ := List.length_eq_one_iff.1 hlen
  rw [hx, getD_of_slice hx]

theorem decodeU16Be_take (h : o + 2 ≤ n) :
    decodeU16Be (bytes.take n) o = decodeU16Be bytes o := by
  rw [decodeU16Be, slice_take h, decodeU16Be]

theorem decodeU32Be_take (h : o + 4 ≤ n) :
    decodeU32Be (bytes.take n) o = decodeU32Be bytes o := by
  rw [decodeU32Be, slice_take h, decodeU32Be]

theorem getD_take (h : o < n) : (bytes.take n).getD o 0 = bytes.getD o 0 := by
  rw [List.getD_eq_getElem?_getD, List.getD_eq_getElem?_getD, List.getElem?_take_of_lt h]

end Fields

/-! ### Frames -/

/-- `ninlil_model_control_frame_decode`: the frame that is all of the bytes, or the result code. -/
def decodeFrame (encoded : List UInt8) : Except FrameResult FrameView :=
  if encoded.length < headerBytes then .error .truncated
  else
    match validateHeaderFields (encoded.take headerBytes) with
    | .error result => .error result
    | .ok payloadLength =>
      if encoded.length < overheadBytes + payloadLength then .error .truncated
      else if encoded.length ≠ overheadBytes + payloadLength then .error .badLength
      else if frameCrcMatches encoded payloadLength = false then .error .badFrameCrc
      else .ok (frameView encoded payloadLength)

/-- The fields of a frame on the wire. -/
def frameBlocks (fields : FrameFields) : List (List UInt8) :=
  [magicBytes, [frameVersion], [fields.type], encodeU16Be fields.flags,
    encodeU32Be fields.streamOrCellId, encodeU32Be fields.sequence,
    encodeU16Be (UInt16.ofNat fields.payload.length), encodeU32Be (crc32c (headerPrefix fields)),
    fields.payload,
    encodeU32Be (crc32c (headerPrefix fields ++ encodeU32Be (crc32c (headerPrefix fields))
      ++ fields.payload))]

/-- Their widths, for a payload of `n` bytes. -/
def frameWidths (n : ℕ) : List ℕ := [4, 1, 1, 2, 4, 4, 2, 4, n, 4]

variable {fields : FrameFields} {encoded : List UInt8} {capacity : ℕ}

theorem frameBytes_eq_flatten (fields : FrameFields) :
    frameBytes fields = (frameBlocks fields).flatten := by
  simp [frameBytes, frameBlocks, headerPrefix]

theorem length_frameBlocks (fields : FrameFields) :
    (frameBlocks fields).map List.length = frameWidths fields.payload.length := by
  simp [frameBlocks, frameWidths, magicBytes]

theorem chop_frameBytes (fields : FrameFields) :
    chop 0 (frameWidths fields.payload.length) (frameBytes fields) = frameBlocks fields := by
  have h := @chop_flatten [] (frameBlocks fields) []
  rwa [length_frameBlocks, List.append_nil, ← frameBytes_eq_flatten] at h

theorem length_frameBytes (fields : FrameFields) :
    (frameBytes fields).length = overheadBytes + fields.payload.length := by
  rw [frameBytes_eq_flatten, List.length_flatten, length_frameBlocks]
  simp only [frameWidths, List.sum_cons, List.sum_nil, overheadBytes]
  omega

theorem length_headerPrefix (fields : FrameFields) :
    (headerPrefix fields).length = headerPrefixBytes := by
  simp [headerPrefix, magicBytes, headerPrefixBytes]

theorem take_frameBytes (fields : FrameFields) :
    (frameBytes fields).take headerPrefixBytes = headerPrefix fields ∧
      (frameBytes fields).take (headerBytes + fields.payload.length) =
        headerPrefix fields ++ encodeU32Be (crc32c (headerPrefix fields)) ++ fields.payload := by
  constructor
  · simp only [frameBytes, List.append_assoc]
    exact List.take_left' (length_headerPrefix fields)
  · simp only [frameBytes]
    refine List.take_left' ?_
    simp only [List.length_append, length_headerPrefix, length_encodeU32Be]
    rfl

/-- **A frame that was encoded is decoded.** -/
theorem decodeFrame_encodeFrame (h : encodeFrame fields capacity = some encoded) :
    ∃ view, decodeFrame encoded = .ok view ∧ view.type = fields.type ∧ view.flags = 0 ∧
      view.streamOrCellId = fields.streamOrCellId ∧ view.sequence = fields.sequence ∧
      view.payload = fields.payload := by
  unfold encodeFrame at h
  split_ifs at h with hbad hcap
  cases h
  simp only [not_or, not_not, Bool.not_eq_false, not_lt, gt_iff_lt] at hbad
  obtain ⟨htype, hflags, hmax⟩ := hbad
  have hlen := length_frameBytes fields
  have hpay : (UInt16.ofNat fields.payload.length).toNat = fields.payload.length := by
    simp only [maxPayloadBytes] at hmax
    exact UInt16.toNat_ofNat_of_lt' (by show _ < 65536; omega)
  obtain ⟨hhead, hbody⟩ := take_frameBytes fields
  have hchop := chop_frameBytes fields
  simp only [frameWidths, chop, frameBlocks, List.cons.injEq, Nat.reduceAdd] at hchop
  obtain ⟨hmagic, hversion, htypeAt, hflagsAt, hid, hseq, hlength, hcrc, hpayload, hframe, -⟩ :=
    hchop
  have hvalid : validateHeaderFields ((frameBytes fields).take headerBytes) =
      .ok fields.payload.length := by
    have h22 : headerBytes = 22 := rfl
    have htake : ((frameBytes fields).take headerBytes).take headerPrefixBytes =
        headerPrefix fields := by
      rw [List.take_take]
      exact hhead
    unfold validateHeaderFields
    rw [h22] at htake ⊢
    rw [getD_take (by decide), getD_take (by decide), decodeU16Be_take (by decide),
      decodeU16Be_take (by decide), decodeU32Be_take (by decide), htake, getD_of_slice hversion,
      getD_of_slice htypeAt, decodeU16Be_of_slice hflagsAt, decodeU16Be_of_slice hlength,
      decodeU32Be_of_slice hcrc, hpay, hflags, htype]
    have hm : magicMatches ((frameBytes fields).take 22) = true := by
      rw [magicMatches, List.take_take, take_eq_slice]
      simpa using hmagic
    rw [hm]
    simp [hmax]
  have hcrcOk : frameCrcMatches (frameBytes fields) fields.payload.length = true := by
    rw [frameCrcMatches, hbody, beq_iff_eq]
    exact decodeU32Be_of_slice hframe
  refine ⟨frameView (frameBytes fields) fields.payload.length, ?_, getD_of_slice htypeAt,
    (decodeU16Be_of_slice hflagsAt).trans hflags, decodeU32Be_of_slice hid,
    decodeU32Be_of_slice hseq, hpayload⟩
  unfold decodeFrame
  rw [if_neg (by rw [hlen]; simp only [headerBytes, overheadBytes]; omega), hvalid]
  dsimp only
  rw [if_neg (by omega), if_neg (by omega), if_neg (by rw [hcrcOk]; decide)]

/-- The fields a decoded frame stands for. -/
def FrameView.toFields (view : FrameView) : FrameFields where
  type := view.type
  flags := view.flags
  streamOrCellId := view.streamOrCellId
  sequence := view.sequence
  payload := view.payload

theorem encodeU32Be_of_eq {bytes : List UInt8} {o : ℕ} {v : UInt32} (h : decodeU32Be bytes o = v)
    (ho : o + 4 ≤ bytes.length) : encodeU32Be v = slice bytes o 4 := by
  rw [← h]
  exact encode_decodeU32Be ho

/-- What the header check has seen. -/
theorem validateHeaderFields_ok {bytes : List UInt8} {n : ℕ}
    (h : validateHeaderFields (bytes.take headerBytes) = .ok n) :
    bytes.take 4 = magicBytes ∧ bytes.getD 4 0 = frameVersion ∧
      frameTypeIsKnown (bytes.getD 5 0) = true ∧ decodeU16Be bytes 6 = 0 ∧
      (decodeU16Be bytes 16).toNat = n ∧ n ≤ maxPayloadBytes ∧
      decodeU32Be bytes 18 = crc32c (bytes.take headerPrefixBytes) := by
  have h22 : headerBytes = 22 := rfl
  have htake : (bytes.take 22).take headerPrefixBytes = bytes.take headerPrefixBytes := by
    rw [List.take_take]
    rfl
  have hmagic : magicMatches (bytes.take 22) = magicMatches bytes := by
    rw [magicMatches, List.take_take]
    rfl
  unfold validateHeaderFields at h
  rw [h22, getD_take (by decide), getD_take (by decide), decodeU16Be_take (by decide),
    decodeU16Be_take (by decide), decodeU32Be_take (by decide), htake, hmagic] at h
  split_ifs at h with h1 h2 h3 h4 h5 h6
  cases h
  rw [not_not] at h2 h4 h6
  exact ⟨by simpa [magicMatches] using h1, h2, by simpa using h3, h4, rfl, by omega, h6⟩

/-- **A byte string that is decoded is the encoding of what it decodes to.** -/
theorem encodeFrame_decodeFrame {view : FrameView} (h : decodeFrame encoded = .ok view)
    (hcap : encoded.length ≤ capacity) : encodeFrame view.toFields capacity = some encoded := by
  unfold decodeFrame at h
  by_cases hshort : encoded.length < headerBytes
  · rw [if_pos hshort] at h
    cases h
  rw [if_neg hshort] at h
  cases hv : validateHeaderFields (encoded.take headerBytes) with
  | error r => rw [hv] at h; cases h
  | ok n =>
    simp only [hv] at h
    split_ifs at h with h1 h2 h3
    cases h
    rw [not_not] at h2
    obtain ⟨hmagic, hversion, htype, hflags, hlength, hmax, hcrc⟩ := validateHeaderFields_ok hv
    have hlen : encoded.length = 26 + n := h2
    have hframe : decodeU32Be encoded (22 + n) = crc32c (encoded.take (22 + n)) := by
      rw [Bool.not_eq_false, frameCrcMatches, beq_iff_eq] at h3
      exact h3
    have hsize : (slice encoded 22 n).length = n := length_slice_of_le (by omega)
    have hpayload : (frameView encoded n).toFields.payload = slice encoded 22 n := rfl
    -- the fields, written one after the other, are the slices of the bytes
    have hu16 : encodeU16Be (UInt16.ofNat n) = slice encoded 16 2 := by
      rw [← hlength, UInt16.ofNat_toNat]
      exact encode_decodeU16Be (by omega)
    have hhead : headerPrefix (frameView encoded n).toFields = encoded.take headerPrefixBytes := by
      have hjoin := @flatten_chop 0 [4, 1, 1, 2, 4, 4, 2] encoded
      simp only [chop, List.flatten_cons, List.flatten_nil, List.append_nil, Nat.reduceAdd,
        List.sum_cons, List.sum_nil] at hjoin
      rw [slice_one (by omega), slice_one (by omega), hversion] at hjoin
      simp only [headerPrefix, hpayload, hsize, hu16, ← hmagic]
      simp only [FrameView.toFields, frameView]
      rw [encode_decodeU16Be (by omega), encode_decodeU32Be (by omega),
        encode_decodeU32Be (by omega)]
      simp only [List.append_assoc, List.cons_append, List.nil_append] at hjoin ⊢
      exact hjoin
    have hheader : headerPrefix (frameView encoded n).toFields
        ++ encodeU32Be (crc32c (headerPrefix (frameView encoded n).toFields)) =
          slice encoded 0 22 := by
      rw [hhead, encodeU32Be_of_eq hcrc (by omega), take_eq_slice]
      exact slice_append_slice
    have hbody : slice encoded 0 22 ++ slice encoded 22 n = slice encoded 0 (22 + n) :=
      slice_append_slice
    have hall : slice encoded 0 (22 + n) ++ slice encoded (22 + n) 4 =
        slice encoded 0 (22 + n + 4) := by
      have := @slice_append_slice encoded 0 (22 + n) 4
      rwa [Nat.zero_add] at this
    have hbytes : frameBytes (frameView encoded n).toFields = encoded := by
      simp only [frameBytes, hheader, hpayload, hbody]
      rw [← take_eq_slice, encodeU32Be_of_eq hframe (by omega), take_eq_slice, hall]
      exact slice_self (by omega)
    unfold encodeFrame
    rw [if_neg, if_neg, hbytes]
    · rw [hpayload, hsize]
      simp only [overheadBytes]
      omega
    · simp only [not_or, not_not, Bool.not_eq_false]
      exact ⟨htype, hflags, by rw [hpayload, hsize]; exact Nat.not_lt.2 hmax⟩

/-! ### Messages -/

/-- The union `body` of a message, read as its message type says; `other` is a type outside the
catalog, whose body no function reads. -/
inductive Ncl1Body
  | member (body : Body)
  | other (messageType : UInt8) (h : exactBodyLength messageType = 0)

def Ncl1Body.messageType : Ncl1Body → UInt8
  | .member body => body.messageType
  | .other messageType _ => messageType

/-- `ninlil_ncl1_message_t`, with every field of its header. -/
structure Ncl1Message where
  logicalVersion : UInt8
  flags : UInt16
  requestId : UInt32
  sessionGeneration : UInt32
  sessionCookie : UInt64
  bodyLength : UInt16
  body : Ncl1Body

/-- `ninlil_ncl1_check_reserved`, of a whole message. -/
def checkReservedMessage (m : Ncl1Message) : Bool :=
  match m.body with
  | .member body => checkReserved body
  | .other .. => false

/-- `ninlil_ncl1_status_t`, the rejections of a message to send. -/
inductive Ncl1EncodeStatus
  | rejectVersion
  | rejectFlags
  | rejectBodyLen
  | rejectUnknownMessage
  | rejectReserved
  | bufferTooSmall
  | rejectBodyLayout
  deriving DecidableEq

/-- `ninlil_ncl1_encode` into a buffer of `outCap` bytes. -/
def encodeNcl1 (m : Ncl1Message) (outCap : ℕ) : Except Ncl1EncodeStatus (List UInt8) :=
  if m.logicalVersion ≠ logicalVersion then .error .rejectVersion
  else if m.flags ≠ 0 then .error .rejectFlags
  else if m.bodyLength.toNat > ncl1MaxBodyBytes then .error .rejectBodyLen
  else
    match m.body with
    | .other .. => .error .rejectUnknownMessage
    | .member body =>
      if checkReserved body = false then .error .rejectReserved
      else if outCap < ncl1HeaderBytes + m.bodyLength.toNat then .error .bufferTooSmall
      else if m.bodyLength.toNat ≠ exactBodyLength body.messageType then .error .rejectBodyLen
      else if bodyLayoutOk body = false then .error .rejectBodyLayout
      else
        .ok (ncl1Magic ++ [m.logicalVersion, body.messageType] ++ encodeU16Be m.flags
          ++ encodeU32Be m.requestId ++ encodeU32Be m.sessionGeneration
          ++ encodeU64Be m.sessionCookie ++ encodeU16Be m.bodyLength ++ bodyBytes body)

/-- `ninlil_ncl1_decode`, with the whole header it fills. -/
def decodeNcl1 (payload : List UInt8) (ncg1Type : UInt8) : Except Ncl1Status Ncl1Message :=
  match decodeMessage payload ncg1Type with
  | .error status => .error status
  | .ok m =>
    .ok
      { logicalVersion := payload.getD 4 0
        flags := 0
        requestId := m.requestId
        sessionGeneration := m.sessionGeneration
        sessionCookie := m.sessionCookie
        bodyLength := decodeU16Be payload 24
        body := .member m.body }

variable {payload : List UInt8} {outCap : ℕ} {m : Ncl1Message}

/-- A message of the catalog behind the constant header fields. -/
def Message.withHeader (core : Message) : Ncl1Message where
  logicalVersion := logicalVersion
  flags := 0
  requestId := core.requestId
  sessionGeneration := core.sessionGeneration
  sessionCookie := core.sessionCookie
  bodyLength := UInt16.ofNat (exactBodyLength core.body.messageType)
  body := .member core.body

/-- What the encoder has accepted: a message of the catalog behind the constant header fields. -/
theorem encodeNcl1_ok (h : encodeNcl1 m outCap = .ok payload) :
    ∃ core : Message, m = core.withHeader ∧ encodeMessage core = some payload := by
  obtain ⟨version, flags, request, generation, cookie, bodyLength, body⟩ := m
  unfold encodeNcl1 at h
  dsimp only at h
  by_cases h1 : version ≠ logicalVersion
  · rw [if_pos h1] at h
    cases h
  by_cases h2 : flags ≠ 0
  · rw [if_neg h1, if_pos h2] at h
    cases h
  by_cases h3 : bodyLength.toNat > ncl1MaxBodyBytes
  · rw [if_neg h1, if_neg h2, if_pos h3] at h
    cases h
  rw [if_neg h1, if_neg h2, if_neg h3] at h
  rw [not_not] at h1 h2
  cases body with
  | other => cases h
  | member body =>
    simp only at h
    split_ifs at h with h4 h5 h6 h7
    cases h
    rw [not_not] at h6
    have hbody : bodyLength = UInt16.ofNat (exactBodyLength body.messageType) := by
      rw [← h6, UInt16.ofNat_toNat]
    refine ⟨⟨request, generation, cookie, body⟩, by rw [h1, h2, hbody]; rfl, ?_⟩
    rw [encodeMessage, if_neg (by simp only [not_or]; exact ⟨h4, h7⟩), messageBytes, h1, h2, hbody]

/-- **A message that was encoded is decoded in a frame of its type.** -/
theorem decodeNcl1_encodeNcl1 (h : encodeNcl1 m outCap = .ok payload) :
    decodeNcl1 payload (requiredNcg1Type m.body.messageType) = .ok m := by
  obtain ⟨core, rfl, henc⟩ := encodeNcl1_ok h
  have hdec := decodeMessage_encodeMessage henc
  unfold encodeMessage at henc
  split_ifs at henc
  cases henc
  have hf := messageBytes_fields core
  have hlen : decodeU16Be (messageBytes core) 24 =
      UInt16.ofNat (exactBodyLength core.body.messageType) := by
    rw [← hf.bodyLength, UInt16.ofNat_toNat]
  simp only [decodeNcl1, Message.withHeader, Ncl1Body.messageType, hdec, hf.version, hlen]

/-! A body that was read is written back. -/

theorem bodyBytes_readBody {messageType : UInt8} {body : List UInt8}
    (hknown : exactBodyLength messageType ≠ 0) (hlen : body.length = exactBodyLength messageType) :
    bodyBytes (readBody messageType body) = body := by
  have hfour : body.length = 8 →
      encodeU16Be (decodeU16Be body 0) ++ encodeU16Be (decodeU16Be body 2)
        ++ encodeU16Be (decodeU16Be body 4) ++ encodeU16Be (decodeU16Be body 6) = body := by
    intro h8
    rw [encode_decodeU16Be (by omega), encode_decodeU16Be (by omega),
      encode_decodeU16Be (by omega), encode_decodeU16Be (by omega)]
    have hjoin := @flatten_chop 0 [2, 2, 2, 2] body
    simp only [chop, List.flatten_cons, List.flatten_nil, List.append_nil, Nat.reduceAdd,
      List.sum_cons, List.sum_nil] at hjoin
    rw [List.append_assoc, List.append_assoc, hjoin, slice_self h8]
  unfold exactBodyLength at hlen hknown
  unfold readBody
  split_ifs with h1 h2 h3 h4 h5
  · rw [if_pos (.inl h1)] at hlen
    exact hfour hlen
  · rw [if_pos (.inr (.inl h2))] at hlen
    exact hfour hlen
  · rw [if_pos (.inr (.inr (.inl h3)))] at hlen
    simp only [bodyBytes]
    rw [encode_decodeU16Be (by omega), encode_decodeU16Be (by omega),
      encode_decodeU32Be (by omega)]
    have hjoin := @flatten_chop 0 [2, 2, 4] body
    simp only [chop, List.flatten_cons, List.flatten_nil, List.append_nil, Nat.reduceAdd,
      List.sum_cons, List.sum_nil] at hjoin
    rw [List.append_assoc, hjoin, slice_self hlen]
  · rw [if_pos (.inr (.inr (.inr (.inl h4))))] at hlen
    simp only [bodyBytes]
    rw [encode_decodeU64Be (by omega), slice_self hlen]
  · rw [if_pos (.inr (.inr (.inr (.inr h5))))] at hlen
    simp only [bodyBytes]
    rw [encode_decodeU64Be (by omega), slice_self hlen]
  · rw [if_neg (by simp [h1, h2, h3, h4, h5])] at hlen hknown
    split_ifs at hlen hknown with h6
    · obtain ⟨a, b, c, d, rfl⟩ := List.length_eq_four.1 hlen
      rfl
    · exact absurd rfl hknown

/-- What the header of an accepted payload holds. -/
theorem peekHeader_ok (h : peekHeader payload = .ok ()) :
    payload.take 4 = ncl1Magic ∧ payload.getD 4 0 = logicalVersion ∧
      decodeU16Be payload 6 = 0 ∧ (decodeU16Be payload 24).toNat ≤ ncl1MaxBodyBytes ∧
      payload.length = ncl1HeaderBytes + (decodeU16Be payload 24).toNat := by
  unfold peekHeader at h
  split_ifs at h with h1 h2 h3 h4 h5 h6
  rw [not_not] at h2 h3 h4 h6
  exact ⟨h2, h3, h4, by omega, h6⟩

/-- **A payload that is decoded, and whose reserved fields are zero, is the encoding of what it
decodes to.** -/
theorem encodeNcl1_decodeNcl1 {ncg1Type : UInt8} (h : decodeNcl1 payload ncg1Type = .ok m)
    (hreserved : checkReservedMessage m = true) (hcap : payload.length ≤ outCap) :
    encodeNcl1 m outCap = .ok payload := by
  unfold decodeNcl1 decodeMessage at h
  by_cases hnil : payload = []
  · rw [if_pos hnil] at h
    cases h
  rw [if_neg hnil] at h
  cases hpeek : peekHeader payload with
  | error s => simp only [hpeek] at h; cases h
  | ok u =>
    obtain ⟨hmagic, hversion, hflags, hmax, hlen⟩ := peekHeader_ok hpeek
    simp only [hpeek] at h
    by_cases h1 : exactBodyLength (payload.getD 5 0) = 0
    · simp only [if_pos h1] at h
      cases h
    by_cases h2 : ncg1Type ≠ 0 ∧ typeBindingOk ncg1Type (payload.getD 5 0) = false
    · simp only [if_neg h1, if_pos h2] at h
      cases h
    by_cases h3 : (decodeU16Be payload 24).toNat ≠ exactBodyLength (payload.getD 5 0)
    · simp only [if_neg h1, if_neg h2, if_pos h3] at h
      cases h
    by_cases h4 : bodyLayoutOk (readBody (payload.getD 5 0) (payload.drop ncl1HeaderBytes)) = false
    · simp only [if_neg h1, if_neg h2, if_neg h3, if_pos h4] at h
      cases h
    simp only [if_neg h1, if_neg h2, if_neg h3, if_neg h4] at h
    cases h
    rw [not_not] at h3
    have h26 : ncl1HeaderBytes = 26 := rfl
    have htype := @messageType_readBody _ (payload.drop ncl1HeaderBytes) h1
    have hbody := @bodyBytes_readBody _ (payload.drop ncl1HeaderBytes) h1
      (by rw [List.length_drop]; omega)
    have hjoin := @flatten_chop 0 [4, 1, 1, 2, 4, 4, 8, 2] payload
    simp only [chop, List.flatten_cons, List.flatten_nil, List.append_nil, Nat.reduceAdd,
      List.sum_cons, List.sum_nil] at hjoin
    rw [slice_one (by omega), slice_one (by omega)] at hjoin
    have hbytes : ncl1Magic ++ [payload.getD 4 0, payload.getD 5 0] ++ encodeU16Be 0
        ++ encodeU32Be (decodeU32Be payload 8) ++ encodeU32Be (decodeU32Be payload 12)
        ++ encodeU64Be (decodeU64Be payload 16) ++ encodeU16Be (decodeU16Be payload 24) =
          payload.take 26 := by
      rw [← hflags, encode_decodeU16Be (by omega), encode_decodeU32Be (by omega),
        encode_decodeU32Be (by omega), encode_decodeU64Be (by omega),
        encode_decodeU16Be (by omega), ← hmagic, take_eq_slice, take_eq_slice]
      simpa only [List.append_assoc, List.cons_append, List.nil_append] using hjoin
    simp only [checkReservedMessage] at hreserved
    simp only [encodeNcl1, htype, hversion, hbody, hreserved, h4]
    rw [if_neg (by simp), if_neg (by simp), if_neg (by omega), if_neg (by simp),
      if_neg (by omega), if_neg (by omega), if_neg (by simp), ← hversion, hbytes, h26,
      List.take_append_drop]

/-- **The control-plane codecs are exact inverses.**  Every frame of a known type without flags
whose payload fits is encoded, and decoded to the same fields; every byte string that is decoded is
the encoding of what it decodes to.  Every message that is encoded is decoded in a frame of its
type; every payload that is decoded and passes the reserved check is the encoding of what it
decodes to. -/
theorem control_codecs :
    (∀ (fields : FrameFields) (capacity : ℕ), frameTypeIsKnown fields.type = true →
      fields.flags = 0 → fields.payload.length ≤ maxPayloadBytes →
      overheadBytes + fields.payload.length ≤ capacity →
      ∃ encoded view, encodeFrame fields capacity = some encoded ∧ decodeFrame encoded = .ok view ∧
        view.type = fields.type ∧ view.streamOrCellId = fields.streamOrCellId ∧
        view.sequence = fields.sequence ∧ view.payload = fields.payload) ∧
    (∀ encoded view capacity, decodeFrame encoded = .ok view → encoded.length ≤ capacity →
      encodeFrame view.toFields capacity = some encoded) ∧
    (∀ m outCap payload, encodeNcl1 m outCap = .ok payload →
      decodeNcl1 payload (requiredNcg1Type m.body.messageType) = .ok m) ∧
    ∀ payload ncg1Type m outCap, decodeNcl1 payload ncg1Type = .ok m →
      checkReservedMessage m = true → payload.length ≤ outCap →
      encodeNcl1 m outCap = .ok payload := by
  refine ⟨fun fields capacity htype hflags hmax hcap => ?_,
    fun _ _ _ h hcap => encodeFrame_decodeFrame h hcap, fun _ _ _ => decodeNcl1_encodeNcl1,
    fun _ _ _ _ h hreserved hcap => encodeNcl1_decodeNcl1 h hreserved hcap⟩
  have henc : encodeFrame fields capacity = some (frameBytes fields) := by
    rw [encodeFrame, if_neg, if_neg (by omega)]
    simp only [not_or, not_not, Bool.not_eq_false]
    exact ⟨htype, hflags, Nat.not_lt.2 hmax⟩
  obtain ⟨view, hdec, h1, -, h2, h3, h4⟩ := decodeFrame_encodeFrame henc
  exact ⟨frameBytes fields, view, henc, hdec, h1, h2, h3, h4⟩

end Ninlil.Control
