import Ninlil.Lib.Bytes

/-!
# Control frames

`control_frame_codec.c`: the NCG1 frame of the Controller–Cell byte stream and its incremental
parser.

* `FrameFields`, `encodeFrame`: a frame put on the wire;
* `validateHeaderFields`, `FrameView`: what a header must satisfy, and a decoded frame;
* `Parser`, `tryWindow`: the window and one attempt to take a frame from its front;
* `feed`: one call of the parser, with its iteration guard;
* `feedAll`: the calling loop of `feed_and_enqueue`.
-/

namespace Ninlil.Control

open Bytes

/-! ### Constants -/

/-- `NINLIL_MODEL_CONTROL_FRAME_HEADER_PREFIX_BYTES`. -/
def headerPrefixBytes : ℕ := 18
/-- `NINLIL_MODEL_CONTROL_FRAME_HEADER_BYTES`. -/
def headerBytes : ℕ := 22
/-- `NINLIL_MODEL_CONTROL_FRAME_OVERHEAD_BYTES`. -/
def overheadBytes : ℕ := 26
/-- `NINLIL_MODEL_CONTROL_FRAME_MAX_PAYLOAD_BYTES`. -/
def maxPayloadBytes : ℕ := 1024
/-- `NINLIL_MODEL_CONTROL_FRAME_MAX_BYTES`. -/
def maxBytes : ℕ := overheadBytes + maxPayloadBytes
/-- `NINLIL_MODEL_CONTROL_FRAME_FEED_GUARD_ITERS`. -/
def feedGuardIters : ℕ := maxBytes * 4
/-- `NINLIL_MODEL_CONTROL_FRAME_VERSION`. -/
def frameVersion : UInt8 := 1
/-- `MAGIC_BYTES`: `NCG1`. -/
def magicBytes : List UInt8 := [78, 67, 71, 49]

/-! ### Numbers and checksums -/

def encodeU16Be (value : UInt16) : List UInt8 := (encodeLE 2 value.toNat).reverse

def encodeU32Be (value : UInt32) : List UInt8 := (encodeLE 4 value.toNat).reverse

def decodeU16Be (bytes : List UInt8) (offset : ℕ) : UInt16 :=
  UInt16.ofNat (decodeLE (slice bytes offset 2).reverse)

def decodeU32Be (bytes : List UInt8) (offset : ℕ) : UInt32 :=
  UInt32.ofNat (decodeLE (slice bytes offset 4).reverse)

/-- One bit of the Castagnoli polynomial. -/
def crcBit (crc : UInt32) : UInt32 :=
  let mask := 0 - (crc &&& 1)
  (crc >>> 1) ^^^ (0x82f63b78 &&& mask)

/-- `ninlil_model_control_frame_crc32c`. -/
def crc32c (bytes : List UInt8) : UInt32 :=
  ~~~(bytes.foldl (fun crc b => crcBit^[8] (crc ^^^ b.toUInt32)) 0xFFFFFFFF)

def satIncU32 (counter : UInt32) : UInt32 := if counter < 0xFFFFFFFF then counter + 1 else counter

def satAddU32 (counter : UInt32) (delta : ℕ) : UInt32 :=
  if counter.toNat + delta > 2 ^ 32 - 1 then 0xFFFFFFFF else counter + UInt32.ofNat delta

/-! ### Frames -/

/-- `NINLIL_MODEL_CONTROL_FRAME_TYPE_PING`, `_PONG`, `_DATA` and `_RESET`. -/
def frameTypeIsKnown (type : UInt8) : Bool := type == 1 || type == 2 || type == 3 || type == 4

/-- `ninlil_model_control_frame_result_t`. -/
inductive FrameResult
  | ok
  | needMore
  | badMagic
  | badVersion
  | badType
  | badFlags
  | badLength
  | badHeaderCrc
  | badFrameCrc
  | truncated
  deriving DecidableEq

/-- `ninlil_model_control_frame_fields_t`. -/
structure FrameFields where
  type : UInt8
  flags : UInt16 := 0
  streamOrCellId : UInt32
  sequence : UInt32
  payload : List UInt8
  deriving DecidableEq

/-- `ninlil_model_control_frame_view_t`, with the payload it points to. -/
structure FrameView where
  version : UInt8
  type : UInt8
  flags : UInt16
  streamOrCellId : UInt32
  sequence : UInt32
  payloadLength : ℕ
  headerCrc32c : UInt32
  frameCrc32c : UInt32
  payload : List UInt8
  deriving DecidableEq

/-- The first eighteen bytes of a frame. -/
def headerPrefix (fields : FrameFields) : List UInt8 :=
  magicBytes ++ [frameVersion, fields.type] ++ encodeU16Be fields.flags
    ++ encodeU32Be fields.streamOrCellId ++ encodeU32Be fields.sequence
    ++ encodeU16Be (UInt16.ofNat fields.payload.length)

/-- The bytes `ninlil_model_control_frame_encode` writes. -/
def frameBytes (fields : FrameFields) : List UInt8 :=
  let header := headerPrefix fields ++ encodeU32Be (crc32c (headerPrefix fields))
  let body := header ++ fields.payload
  body ++ encodeU32Be (crc32c body)

/-- `ninlil_model_control_frame_encode` into a buffer of a given capacity. -/
def encodeFrame (fields : FrameFields) (capacity : ℕ) : Option (List UInt8) :=
  if frameTypeIsKnown fields.type = false ∨ fields.flags ≠ 0
      ∨ fields.payload.length > maxPayloadBytes then none
  else if capacity < overheadBytes + fields.payload.length then none
  else some (frameBytes fields)

def magicMatches (bytes : List UInt8) : Bool := bytes.take 4 == magicBytes

def magicPrefixMatches (bytes : List UInt8) (prefixLen : ℕ) : Bool :=
  1 ≤ prefixLen && prefixLen ≤ 4 && bytes.take prefixLen == magicBytes.take prefixLen

/-- `validate_header_fields`: the payload length, or why the header is rejected. -/
def validateHeaderFields (header : List UInt8) : Except FrameResult ℕ :=
  if magicMatches header = false then .error .badMagic
  else if header.getD 4 0 ≠ frameVersion then .error .badVersion
  else if frameTypeIsKnown (header.getD 5 0) = false then .error .badType
  else if decodeU16Be header 6 ≠ 0 then .error .badFlags
  else if (decodeU16Be header 16).toNat > maxPayloadBytes then .error .badLength
  else if decodeU32Be header 18 ≠ crc32c (header.take headerPrefixBytes) then .error .badHeaderCrc
  else .ok (decodeU16Be header 16).toNat

/-- `fill_view_from_parts`, of a frame at the front of some bytes. -/
def frameView (bytes : List UInt8) (payloadLength : ℕ) : FrameView where
  version := bytes.getD 4 0
  type := bytes.getD 5 0
  flags := decodeU16Be bytes 6
  streamOrCellId := decodeU32Be bytes 8
  sequence := decodeU32Be bytes 12
  payloadLength := payloadLength
  headerCrc32c := decodeU32Be bytes 18
  frameCrc32c := decodeU32Be bytes (headerBytes + payloadLength)
  payload := slice bytes headerBytes payloadLength

/-- The checksum at the end of a frame is that of the bytes before it. -/
def frameCrcMatches (bytes : List UInt8) (payloadLength : ℕ) : Bool :=
  decodeU32Be bytes (headerBytes + payloadLength) == crc32c (bytes.take (headerBytes + payloadLength))

/-! ### The parser -/

/-- `ninlil_model_control_frame_parser_stats_t`. -/
structure ParserStats where
  framesAccepted : UInt32 := 0
  bytesConsumed : UInt32 := 0
  resyncSkips : UInt32 := 0
  rejectsBadHeader : UInt32 := 0
  rejectsBadFrameCrc : UInt32 := 0
  rejectsBadType : UInt32 := 0
  rejectsBadVersion : UInt32 := 0
  rejectsBadFlags : UInt32 := 0
  rejectsBadLength : UInt32 := 0

/-- `ninlil_model_control_frame_parser_t`; the payload of the last frame is part of its view. -/
structure Parser where
  window : List UInt8 := []
  stats : ParserStats := {}
  lastFrame : Option FrameView := none
  frameReady : Bool := false

def ParserStats.noteReject (stats : ParserStats) : FrameResult → ParserStats
  | .badVersion =>
    { stats with
      rejectsBadVersion := satIncU32 stats.rejectsBadVersion
      rejectsBadHeader := satIncU32 stats.rejectsBadHeader }
  | .badType =>
    { stats with
      rejectsBadType := satIncU32 stats.rejectsBadType
      rejectsBadHeader := satIncU32 stats.rejectsBadHeader }
  | .badFlags =>
    { stats with
      rejectsBadFlags := satIncU32 stats.rejectsBadFlags
      rejectsBadHeader := satIncU32 stats.rejectsBadHeader }
  | .badLength =>
    { stats with
      rejectsBadLength := satIncU32 stats.rejectsBadLength
      rejectsBadHeader := satIncU32 stats.rejectsBadHeader }
  | .badHeaderCrc | .badMagic =>
    { stats with rejectsBadHeader := satIncU32 stats.rejectsBadHeader }
  | .badFrameCrc => { stats with rejectsBadFrameCrc := satIncU32 stats.rejectsBadFrameCrc }
  | _ => stats

/-- `parser_note_reject`. -/
def noteReject (parser : Parser) (result : FrameResult) : Parser :=
  { parser with stats := parser.stats.noteReject result }

/-- What `parser_compact_to_magic_or_prefix` leaves of a window: from the first full magic on, or
the longest suffix that is the start of one. -/
def compactToMagicOrPrefix (window : List UInt8) : List UInt8 :=
  match (List.range (window.length - 3)).find? fun i => magicMatches (window.drop i) with
  | some i => window.drop i
  | none =>
    match [3, 2, 1].find? fun i =>
        i ≤ window.length && magicPrefixMatches (window.drop (window.length - i)) i with
    | some keep => window.drop (window.length - keep)
    | none => []

/-- The window cut down to a suffix, the bytes dropped counted as skipped. -/
def skipTo (parser : Parser) (window : List UInt8) : Parser :=
  { parser with
    window := window
    stats := { parser.stats with
      resyncSkips := satAddU32 parser.stats.resyncSkips (parser.window.length - window.length) } }

/-- `parser_resync_untrusted`. -/
def resyncUntrusted (parser : Parser) : Parser :=
  if parser.window = [] then parser
  else skipTo parser (compactToMagicOrPrefix (parser.window.drop 1))

/-- `parser_discard_trusted_candidate`. -/
def discardTrustedCandidate (parser : Parser) (frameLength : ℕ) : Parser :=
  let rest := parser.window.drop frameLength
  if (rest.length ≥ 4 ∧ magicMatches rest = true)
      ∨ (rest.length < 4 ∧ magicPrefixMatches rest rest.length = true) then
    skipTo parser rest
  else skipTo parser (compactToMagicOrPrefix rest)

/-- The part of `parser_try_window` after the magic was found at the front. -/
def tryHeader (parser : Parser) : FrameResult × Parser :=
  if parser.window.length < headerBytes then (.needMore, parser)
  else
    match validateHeaderFields (parser.window.take headerBytes) with
    | .error result => (result, resyncUntrusted (noteReject parser result))
    | .ok payloadLength =>
      if parser.window.length < overheadBytes + payloadLength then (.needMore, parser)
      else if frameCrcMatches parser.window payloadLength = false then
        (.badFrameCrc,
          discardTrustedCandidate (noteReject parser .badFrameCrc) (overheadBytes + payloadLength))
      else
        (.ok,
          { window := parser.window.drop (overheadBytes + payloadLength)
            stats := { parser.stats with framesAccepted := satIncU32 parser.stats.framesAccepted }
            lastFrame := some (frameView parser.window payloadLength)
            frameReady := true })

/-- `parser_try_window`. -/
def tryWindow (parser : Parser) : FrameResult × Parser :=
  if parser.window = [] then (.needMore, parser)
  else if parser.window.length < 4 then
    if magicPrefixMatches parser.window parser.window.length then (.needMore, parser)
    else
      let compacted := skipTo parser (compactToMagicOrPrefix parser.window)
      if compacted.window = [] then (.badMagic, compacted) else (.needMore, compacted)
  else if magicMatches parser.window then tryHeader parser
  else
    let compacted := noteReject (skipTo parser (compactToMagicOrPrefix parser.window)) .badMagic
    if compacted.window = [] then (.badMagic, compacted)
    else if compacted.window.length < 4 ∨ magicMatches compacted.window = false then
      (.needMore, compacted)
    else tryHeader compacted

def appendByte (parser : Parser) (b : UInt8) : Parser :=
  { parser with
    window := parser.window ++ [b]
    stats := { parser.stats with bytesConsumed := satIncU32 parser.stats.bytesConsumed } }

/-- The loop of `ninlil_model_control_frame_parser_feed`, with the iterations and the input that
are left; what it returns holds the input not consumed. -/
def feedLoop : ℕ → Parser → List UInt8 → FrameResult × Parser × List UInt8
  | 0, parser, rest =>
    let r := tryWindow parser
    (r.1, r.2, rest)
  | guard + 1, parser, rest =>
    match tryWindow parser with
    | (.ok, parser) => (.ok, parser, rest)
    | (.needMore, parser) =>
      match rest with
      | [] => (.needMore, parser, [])
      | b :: rest =>
        if parser.window.length ≥ maxBytes then feedLoop guard (resyncUntrusted parser) (b :: rest)
        else
          match tryWindow (appendByte parser b) with
          | (.ok, parser) => (.ok, parser, rest)
          | (result, parser) =>
            if result ≠ .needMore ∧ parser.window = [] ∧ rest = [] then (result, parser, rest)
            else feedLoop guard parser rest
    | (result, parser) =>
      if parser.window = [] ∧ rest = [] then (result, parser, rest)
      else feedLoop guard parser rest

/-- `ninlil_model_control_frame_parser_feed`. -/
def feed (parser : Parser) (input : List UInt8) : FrameResult × Parser × List UInt8 :=
  feedLoop feedGuardIters { parser with frameReady := false, lastFrame := none } input

/-- The frame a call of the parser left ready. -/
def readyFrame (parser : Parser) : List FrameView :=
  if parser.frameReady then parser.lastFrame.toList else []

/-- The loop of `feed_and_enqueue`: the frames taken, the parser, and the input left when the loop
ends. -/
def feedAll : ℕ → Parser → List UInt8 → List FrameView × Parser × List UInt8
  | 0, parser, rest => ([], parser, rest)
  | guard + 1, parser, rest =>
    if rest = [] then ([], parser, [])
    else
      let r := feed parser rest
      if r.2.2.length = rest.length ∧ r.2.1.frameReady = false then ([], r.2.1, rest)
      else
        let s := feedAll guard { r.2.1 with frameReady := false } r.2.2
        (readyFrame r.2.1 ++ s.1, s.2.1, s.2.2)

end Ninlil.Control
