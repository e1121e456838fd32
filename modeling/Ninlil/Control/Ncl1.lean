import Ninlil.Control.Frame

/-!
# Control messages

`ncl1_codec.c`: the NCL1 message that a control frame carries.

* `Message`, `Body`: a message with one of the six bodies of the closed catalog;
* `encodeMessage`, `decodeMessage`: the exact wire layout and its checks;
* `isValidHelloBootstrap`, `isStructurallyValidHelloAck`: the two shapes the session peeks for;
* `decodeMessage_encodeMessage`: a message put on the wire is read back.

The header fields `logical_version`, `flags` and `body_length` are constants of every message that
is encoded or accepted, so `Message` does not hold them.
-/

namespace Ninlil.Control

open Bytes

/-! ### Messages -/

/-- The body of a message. -/
inductive Body
  | hello (minControlVersion maxControlVersion flagsSupported reserved : UInt16)
  | helloAck (selectedControlVersion flagsSelected resultCode reserved : UInt16)
  | ctrlError (errorCode reserved : UInt16) (relatedRequestId : UInt32)
  | ping (echoToken : UInt64)
  | pong (echoToken : UInt64)
  | reset (resetCode reserved0 reserved1 reserved2 : UInt8)
  deriving DecidableEq

/-- `ninlil_ncl1_message_t`. -/
structure Message where
  requestId : UInt32
  sessionGeneration : UInt32
  sessionCookie : UInt64
  body : Body
  deriving DecidableEq

/-- `ninlil_ncl1_status_t`, the rejections of a received message. -/
inductive Ncl1Status
  | invalidArgument
  | rejectShort
  | rejectMagic
  | rejectVersion
  | rejectFlags
  | rejectBodyLen
  | rejectUnknownMessage
  | rejectTypeBinding
  | rejectBodyLayout
  deriving DecidableEq

/-- `NINLIL_NCL1_HEADER_BYTES`. -/
def ncl1HeaderBytes : ℕ := 26
/-- `NINLIL_NCL1_MAX_BODY_BYTES`. -/
def ncl1MaxBodyBytes : ℕ := 998
/-- `NINLIL_NCL1_MAGIC0` to `NINLIL_NCL1_MAGIC3`: `NCL1`. -/
def ncl1Magic : List UInt8 := [78, 67, 76, 49]
/-- `NINLIL_NCL1_LOGICAL_VERSION`. -/
def logicalVersion : UInt8 := 1

/-- `NINLIL_NCL1_HELLO_OK`. -/
def helloOk : UInt16 := 0
/-- `NINLIL_NCL1_HELLO_VERSION_MISMATCH`. -/
def helloVersionMismatch : UInt16 := 1
/-- `NINLIL_NCL1_HELLO_BUSY`. -/
def helloBusy : UInt16 := 2
/-- `NINLIL_NCL1_HELLO_DENIED`. -/
def helloDenied : UInt16 := 3
/-- `NINLIL_NCL1_RESET_SESSION`. -/
def resetSession : UInt8 := 1
/-- `NINLIL_NCL1_RESET_PARSER`. -/
def resetParser : UInt8 := 2
/-- `NINLIL_NCL1_RESET_LINK`. -/
def resetLink : UInt8 := 3
/-- `NINLIL_NCL1_ERR_UNKNOWN_MESSAGE`. -/
def errUnknownMessage : UInt16 := 2
/-- `NINLIL_NCL1_ERR_TYPE_BINDING`. -/
def errTypeBinding : UInt16 := 7
/-- `NINLIL_NCL1_NCG1_TYPE_PING`. -/
def ncg1TypePing : UInt8 := 1
/-- `NINLIL_NCL1_NCG1_TYPE_PONG`. -/
def ncg1TypePong : UInt8 := 2
/-- `NINLIL_NCL1_NCG1_TYPE_DATA`. -/
def ncg1TypeData : UInt8 := 3
/-- `NINLIL_NCL1_NCG1_TYPE_RESET`. -/
def ncg1TypeReset : UInt8 := 4
/-- `NINLIL_NCL1_CONTROL_VERSION_V1`. -/
def controlVersionV1 : UInt16 := 1

/-- `NINLIL_NCL1_MSG_*`. -/
def Body.messageType : Body → UInt8
  | .hello .. => 0x01
  | .helloAck .. => 0x02
  | .ctrlError .. => 0x03
  | .ping _ => 0x10
  | .pong _ => 0x11
  | .reset .. => 0x12

/-- `ninlil_ncl1_exact_body_length`; `0` for a type outside the catalog. -/
def exactBodyLength (messageType : UInt8) : ℕ :=
  if messageType = 0x01 ∨ messageType = 0x02 ∨ messageType = 0x03 ∨ messageType = 0x10
      ∨ messageType = 0x11 then 8
  else if messageType = 0x12 then 4
  else 0

/-- `ninlil_ncl1_required_ncg1_type`. -/
def requiredNcg1Type (messageType : UInt8) : UInt8 :=
  if messageType = 0x01 ∨ messageType = 0x02 ∨ messageType = 0x03 then ncg1TypeData
  else if messageType = 0x10 then ncg1TypePing
  else if messageType = 0x11 then ncg1TypePong
  else if messageType = 0x12 then ncg1TypeReset
  else 0

/-- `ninlil_ncl1_type_binding_ok`. -/
def typeBindingOk (ncg1Type messageType : UInt8) : Bool :=
  requiredNcg1Type messageType != 0 && ncg1Type == requiredNcg1Type messageType

/-- `ninlil_ncl1_error_code_is_closed`. -/
def errorCodeIsClosed (code : UInt16) : Bool := 1 ≤ code.toNat && code.toNat ≤ 7

/-- `ninlil_ncl1_reset_code_is_closed`. -/
def resetCodeIsClosed (code : UInt8) : Bool :=
  code == resetSession || code == resetParser || code == resetLink

/-- The result codes of a `HELLO_ACK`. -/
def helloResultIsClosed (code : UInt16) : Bool :=
  code == helloOk || code == helloVersionMismatch || code == helloBusy || code == helloDenied

/-- `ninlil_ncl1_check_reserved`. -/
def checkReserved : Body → Bool
  | .hello _ _ _ reserved => reserved == 0
  | .helloAck _ _ _ reserved => reserved == 0
  | .ctrlError _ reserved _ => reserved == 0
  | .reset _ reserved0 reserved1 reserved2 => reserved0 == 0 && reserved1 == 0 && reserved2 == 0
  | .ping _ => true
  | .pong _ => true

/-- The values a body may hold, apart from its reserved fields: the checks of `encode_body_layout`
and of `decode_body_layout`. -/
def bodyLayoutOk : Body → Bool
  | .hello low high _ _ => low.toNat ≤ high.toNat
  | .helloAck _ _ result _ => helloResultIsClosed result
  | .ctrlError code _ _ => errorCodeIsClosed code
  | .reset code _ _ _ => resetCodeIsClosed code
  | .ping _ => true
  | .pong _ => true

/-! ### The wire -/

def encodeU64Be (value : UInt64) : List UInt8 := (encodeLE 8 value.toNat).reverse

def decodeU64Be (bytes : List UInt8) (offset : ℕ) : UInt64 :=
  UInt64.ofNat (decodeLE (slice bytes offset 8).reverse)

/-- `encode_body_layout`. -/
def bodyBytes : Body → List UInt8
  | .hello low high flags reserved =>
    encodeU16Be low ++ encodeU16Be high ++ encodeU16Be flags ++ encodeU16Be reserved
  | .helloAck version flags result reserved =>
    encodeU16Be version ++ encodeU16Be flags ++ encodeU16Be result ++ encodeU16Be reserved
  | .ctrlError code reserved related =>
    encodeU16Be code ++ encodeU16Be reserved ++ encodeU32Be related
  | .ping token => encodeU64Be token
  | .pong token => encodeU64Be token
  | .reset code reserved0 reserved1 reserved2 => [code, reserved0, reserved1, reserved2]

/-- The header and body of a message on the wire. -/
def messageBytes (m : Message) : List UInt8 :=
  ncl1Magic ++ [logicalVersion, m.body.messageType] ++ encodeU16Be 0 ++ encodeU32Be m.requestId
    ++ encodeU32Be m.sessionGeneration ++ encodeU64Be m.sessionCookie
    ++ encodeU16Be (UInt16.ofNat (exactBodyLength m.body.messageType)) ++ bodyBytes m.body

/-- `ninlil_ncl1_encode`, into a buffer that holds any message. -/
def encodeMessage (m : Message) : Option (List UInt8) :=
  if checkReserved m.body = false ∨ bodyLayoutOk m.body = false then none
  else some (messageBytes m)

/-- The fields of a body of a known type, read by `decode_body_layout`. -/
def readBody (messageType : UInt8) (body : List UInt8) : Body :=
  if messageType = 0x01 then
    .hello (decodeU16Be body 0) (decodeU16Be body 2) (decodeU16Be body 4) (decodeU16Be body 6)
  else if messageType = 0x02 then
    .helloAck (decodeU16Be body 0) (decodeU16Be body 2) (decodeU16Be body 4) (decodeU16Be body 6)
  else if messageType = 0x03 then
    .ctrlError (decodeU16Be body 0) (decodeU16Be body 2) (decodeU32Be body 4)
  else if messageType = 0x10 then .ping (decodeU64Be body 0)
  else if messageType = 0x11 then .pong (decodeU64Be body 0)
  else .reset (body.getD 0 0) (body.getD 1 0) (body.getD 2 0) (body.getD 3 0)

/-- `ninlil_ncl1_peek_header`: whether the fixed header fields are those of a message. -/
def peekHeader (payload : List UInt8) : Except Ncl1Status Unit :=
  if payload.length < ncl1HeaderBytes then .error .rejectShort
  else if payload.take 4 ≠ ncl1Magic then .error .rejectMagic
  else if payload.getD 4 0 ≠ logicalVersion then .error .rejectVersion
  else if decodeU16Be payload 6 ≠ 0 then .error .rejectFlags
  else if (decodeU16Be payload 24).toNat > ncl1MaxBodyBytes then .error .rejectBodyLen
  else if payload.length ≠ ncl1HeaderBytes + (decodeU16Be payload 24).toNat then
    .error .rejectBodyLen
  else .ok ()

/-- `ninlil_ncl1_decode`; a frame without payload hands over no buffer. -/
def decodeMessage (payload : List UInt8) (ncg1Type : UInt8) : Except Ncl1Status Message :=
  if payload = [] then .error .invalidArgument
  else
    match peekHeader payload with
    | .error status => .error status
    | .ok () =>
      let messageType := payload.getD 5 0
      let body := readBody messageType (payload.drop ncl1HeaderBytes)
      if exactBodyLength messageType = 0 then .error .rejectUnknownMessage
      else if ncg1Type ≠ 0 ∧ typeBindingOk ncg1Type messageType = false then
        .error .rejectTypeBinding
      else if (decodeU16Be payload 24).toNat ≠ exactBodyLength messageType then
        .error .rejectBodyLayout
      else if bodyLayoutOk body = false then .error .rejectBodyLayout
      else
        .ok
          { requestId := decodeU32Be payload 8
            sessionGeneration := decodeU32Be payload 12
            sessionCookie := decodeU64Be payload 16
            body := body }

/-! ### The shapes of a handshake -/

/-- `ninlil_ncl1_is_valid_hello_bootstrap`. -/
def isValidHelloBootstrap (m : Message) : Bool :=
  match m.body with
  | .hello low high flags reserved =>
    m.sessionGeneration == 0 && m.sessionCookie == 0 && m.requestId != 0
      && low == controlVersionV1 && high == controlVersionV1 && flags == 0 && reserved == 0
  | _ => false

/-- `ninlil_ncl1_is_structurally_valid_hello_ack`. -/
def isStructurallyValidHelloAck (m : Message) : Bool :=
  match m.body with
  | .helloAck version flags result reserved =>
    m.requestId != 0 && flags == 0 && reserved == 0
      && (if result = helloOk then
          m.sessionGeneration != 0 && m.sessionCookie != 0 && version == controlVersionV1
        else helloResultIsClosed result && m.sessionGeneration == 0 && m.sessionCookie == 0)
  | _ => false

/-! ### Round trip -/

@[simp] theorem length_encodeU16Be (v : UInt16) : (encodeU16Be v).length = 2 := by
  simp [encodeU16Be]

@[simp] theorem length_encodeU32Be (v : UInt32) : (encodeU32Be v).length = 4 := by
  simp [encodeU32Be]

@[simp] theorem length_encodeU64Be (v : UInt64) : (encodeU64Be v).length = 8 := by
  simp [encodeU64Be]

theorem decodeU16Be_of_slice {bytes : List UInt8} {o : ℕ} {v : UInt16}
    (h : slice bytes o 2 = encodeU16Be v) : decodeU16Be bytes o = v := by
  rw [decodeU16Be, h, encodeU16Be, List.reverse_reverse, decodeLE_encodeLE_of_lt v.toNat_lt]
  exact UInt16.ofNat_toNat

theorem decodeU32Be_of_slice {bytes : List UInt8} {o : ℕ} {v : UInt32}
    (h : slice bytes o 4 = encodeU32Be v) : decodeU32Be bytes o = v := by
  rw [decodeU32Be, h, encodeU32Be, List.reverse_reverse, decodeLE_encodeLE_of_lt v.toNat_lt]
  exact UInt32.ofNat_toNat

theorem decodeU64Be_of_slice {bytes : List UInt8} {o : ℕ} {v : UInt64}
    (h : slice bytes o 8 = encodeU64Be v) : decodeU64Be bytes o = v := by
  rw [decodeU64Be, h, encodeU64Be, List.reverse_reverse, decodeLE_encodeLE_of_lt v.toNat_lt]
  exact UInt64.ofNat_toNat

/-- A part of a list of parts, at the offset of those before it. -/
theorem slice_of_parts {pre mid post bytes : List UInt8} {o n : ℕ} (h : bytes = pre ++ mid ++ post)
    (ho : pre.length = o) (hn : mid.length = n) : slice bytes o n = mid := by
  rw [h]
  exact slice_append_mid ho hn

theorem length_bodyBytes (b : Body) : (bodyBytes b).length = exactBodyLength b.messageType := by
  cases b <;> simp [bodyBytes, Body.messageType, exactBodyLength]

theorem exactBodyLength_le (b : Body) :
    0 < exactBodyLength b.messageType ∧ exactBodyLength b.messageType ≤ 8 := by
  cases b <;> simp [Body.messageType, exactBodyLength]

/-- The fields of a message on the wire. -/
structure MessageFields (bytes : List UInt8) (m : Message) : Prop where
  length : bytes.length = ncl1HeaderBytes + exactBodyLength m.body.messageType
  magic : bytes.take 4 = ncl1Magic
  version : bytes.getD 4 0 = logicalVersion
  type : bytes.getD 5 0 = m.body.messageType
  flags : decodeU16Be bytes 6 = 0
  requestId : decodeU32Be bytes 8 = m.requestId
  generation : decodeU32Be bytes 12 = m.sessionGeneration
  cookie : decodeU64Be bytes 16 = m.sessionCookie
  bodyLength : (decodeU16Be bytes 24).toNat = exactBodyLength m.body.messageType
  body : bytes.drop ncl1HeaderBytes = bodyBytes m.body

theorem messageBytes_fields (m : Message) : MessageFields (messageBytes m) m where
  length := by
    simp [messageBytes, ncl1Magic, ncl1HeaderBytes, length_bodyBytes]
    omega
  magic := rfl
  version := rfl
  type := rfl
  flags := decodeU16Be_of_slice
    (@slice_of_parts (ncl1Magic ++ [logicalVersion, m.body.messageType]) _ _ _ _ _
      (by simp only [messageBytes, List.append_assoc]; rfl) rfl (length_encodeU16Be 0))
  requestId := decodeU32Be_of_slice
    (@slice_of_parts (ncl1Magic ++ [logicalVersion, m.body.messageType] ++ encodeU16Be 0) _ _ _ _ _
      (by simp only [messageBytes, List.append_assoc]; rfl) rfl (length_encodeU32Be _))
  generation := decodeU32Be_of_slice
    (@slice_of_parts (ncl1Magic ++ [logicalVersion, m.body.messageType] ++ encodeU16Be 0
        ++ encodeU32Be m.requestId) _ _ _ _ _
      (by simp only [messageBytes, List.append_assoc]; rfl) rfl (length_encodeU32Be _))
  cookie := decodeU64Be_of_slice
    (@slice_of_parts (ncl1Magic ++ [logicalVersion, m.body.messageType] ++ encodeU16Be 0
        ++ encodeU32Be m.requestId ++ encodeU32Be m.sessionGeneration) _ _ _ _ _
      (by simp only [messageBytes, List.append_assoc]; rfl) rfl (length_encodeU64Be _))
  bodyLength := by
    rw [decodeU16Be_of_slice
      (slice_of_parts (by simp only [messageBytes]; rfl) (by simp [ncl1Magic])
        (length_encodeU16Be _))]
    have := exactBodyLength_le m.body
    rw [UInt16.toNat_ofNat']
    exact Nat.mod_eq_of_lt (by omega)
  body := by
    rw [messageBytes, List.drop_left']
    simp [ncl1Magic, ncl1HeaderBytes]

/-- The bodies of `HELLO` and `HELLO_ACK` are four 16-bit numbers. -/
theorem decodeU16Be_four (a b c d : UInt16) {bytes : List UInt8}
    (h : bytes = encodeU16Be a ++ encodeU16Be b ++ encodeU16Be c ++ encodeU16Be d) :
    decodeU16Be bytes 0 = a ∧ decodeU16Be bytes 2 = b ∧ decodeU16Be bytes 4 = c ∧
      decodeU16Be bytes 6 = d := by
  refine ⟨?_, ?_, ?_, ?_⟩
  · exact decodeU16Be_of_slice (@slice_of_parts [] _ _ _ _ _
      (by rw [h]; simp only [List.nil_append, List.append_assoc]; rfl) rfl (length_encodeU16Be _))
  · exact decodeU16Be_of_slice (@slice_of_parts (encodeU16Be a) _ _ _ _ _
      (by rw [h]; simp only [List.append_assoc]; rfl) rfl (length_encodeU16Be _))
  · exact decodeU16Be_of_slice (@slice_of_parts (encodeU16Be a ++ encodeU16Be b) _ _ _ _ _
      (by rw [h]) rfl (length_encodeU16Be _))
  · exact decodeU16Be_of_slice (@slice_of_parts
      (encodeU16Be a ++ encodeU16Be b ++ encodeU16Be c) _ [] _ _ _
      (by rw [h, List.append_nil]) rfl (length_encodeU16Be _))

theorem readBody_bodyBytes (b : Body) : readBody b.messageType (bodyBytes b) = b := by
  cases b with
  | hello low high flags reserved =>
    obtain ⟨h0, h2, h4, h6⟩ := @decodeU16Be_four low high flags reserved
      (bodyBytes (.hello low high flags reserved)) rfl
    simp [readBody, Body.messageType, h0, h2, h4, h6]
  | helloAck version flags result reserved =>
    obtain ⟨h0, h2, h4, h6⟩ := @decodeU16Be_four version flags result reserved
      (bodyBytes (.helloAck version flags result reserved)) rfl
    simp [readBody, Body.messageType, h0, h2, h4, h6]
  | ctrlError code reserved related =>
    have h0 : decodeU16Be (bodyBytes (.ctrlError code reserved related)) 0 = code :=
      decodeU16Be_of_slice (@slice_of_parts [] _ _ _ _ _
        (by simp only [bodyBytes, List.nil_append, List.append_assoc]; rfl) rfl
        (length_encodeU16Be _))
    have h2 : decodeU16Be (bodyBytes (.ctrlError code reserved related)) 2 = reserved :=
      decodeU16Be_of_slice (@slice_of_parts (encodeU16Be code) _ _ _ _ _
        (by simp only [bodyBytes, List.append_assoc]; rfl) rfl (length_encodeU16Be _))
    have h4 : decodeU32Be (bodyBytes (.ctrlError code reserved related)) 4 = related :=
      decodeU32Be_of_slice (@slice_of_parts (encodeU16Be code ++ encodeU16Be reserved) _ [] _ _ _
        (by simp only [bodyBytes, List.append_nil]) rfl (length_encodeU32Be _))
    simp [readBody, Body.messageType, h0, h2, h4]
  | ping token =>
    have h0 : decodeU64Be (bodyBytes (.ping token)) 0 = token :=
      decodeU64Be_of_slice (slice_self (length_encodeU64Be token))
    simp [readBody, Body.messageType, h0]
  | pong token =>
    have h0 : decodeU64Be (bodyBytes (.pong token)) 0 = token :=
      decodeU64Be_of_slice (slice_self (length_encodeU64Be token))
    simp [readBody, Body.messageType, h0]
  | reset code reserved0 reserved1 reserved2 => rfl

theorem requiredNcg1Type_ne_zero (b : Body) : requiredNcg1Type b.messageType ≠ 0 := by
  cases b <;> simp [Body.messageType, requiredNcg1Type, ncg1TypeData, ncg1TypePing, ncg1TypePong,
    ncg1TypeReset]

/-- **A message put on the wire in a frame of its type is read back.** -/
theorem decodeMessage_encodeMessage {m : Message} {payload : List UInt8}
    (h : encodeMessage m = some payload) :
    decodeMessage payload (requiredNcg1Type m.body.messageType) = .ok m := by
  unfold encodeMessage at h
  split_ifs at h with hbad
  obtain ⟨-, hlayout⟩ := not_or.1 hbad
  have hlayout := Bool.not_eq_false _ ▸ hlayout
  cases h
  have hf := messageBytes_fields m
  have hlen := exactBodyLength_le m.body
  have hhead : ncl1HeaderBytes = 26 := rfl
  have hmax : ncl1MaxBodyBytes = 998 := rfl
  have hpeek : peekHeader (messageBytes m) = .ok () := by
    rw [peekHeader, if_neg (by rw [hf.length]; omega), if_neg (not_not.2 hf.magic),
      if_neg (not_not.2 hf.version), if_neg (not_not.2 hf.flags),
      if_neg (by rw [hf.bodyLength]; omega),
      if_neg (by rw [hf.length, hf.bodyLength]; exact not_not.2 rfl)]
  have hbind : typeBindingOk (requiredNcg1Type m.body.messageType) m.body.messageType = true := by
    rw [typeBindingOk, bne_iff_ne.2 (requiredNcg1Type_ne_zero m.body), beq_self_eq_true]
    rfl
  rw [decodeMessage, if_neg (by rw [← List.length_eq_zero_iff, hf.length]; omega), hpeek]
  simp only [hf.type, hf.body, readBody_bodyBytes, hf.requestId, hf.generation, hf.cookie,
    hf.bodyLength, hbind, hlayout]
  rw [if_neg (by omega), if_neg (by simp), if_neg (by simp), if_neg (by simp)]

theorem messageType_readBody {messageType : UInt8} {body : List UInt8}
    (h : exactBodyLength messageType ≠ 0) :
    (readBody messageType body).messageType = messageType := by
  unfold readBody
  split_ifs with h1 h2 h3 h4 h5
  · exact h1.symm
  · exact h2.symm
  · exact h3.symm
  · exact h4.symm
  · exact h5.symm
  · unfold exactBodyLength at h
    rw [if_neg (by simp [h1, h2, h3, h4, h5])] at h
    split_ifs at h with h6
    · exact h6.symm
    · exact absurd rfl h

/-- A message is accepted only in a frame of its type. -/
theorem decodeMessage_binding {payload : List UInt8} {ncg1Type : UInt8} {m : Message}
    (h : decodeMessage payload ncg1Type = .ok m) (hn : ncg1Type ≠ 0) :
    ncg1Type = requiredNcg1Type m.body.messageType := by
  unfold decodeMessage at h
  split at h
  · cases h
  · split at h
    · cases h
    · dsimp only at h
      split_ifs at h with h1 h2 h3 h4
      cases h
      have hbind : typeBindingOk ncg1Type (payload.getD 5 0) = true := by
        by_contra hne
        exact h2 ⟨hn, Bool.eq_false_iff.2 hne⟩
      have htype : (readBody (payload.getD 5 0) (payload.drop ncl1HeaderBytes)).messageType =
          payload.getD 5 0 := messageType_readBody h1
      rw [htype]
      unfold typeBindingOk at hbind
      simp only [Bool.and_eq_true, beq_iff_eq] at hbind
      exact hbind.2

end Ninlil.Control
