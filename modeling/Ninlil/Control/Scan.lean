import Ninlil.Control.Frame

/-!
# The parser against the left-to-right scan

The frames of a byte stream, defined position by position, and the proof that the incremental
parser emits exactly these however the stream is cut into chunks.

* `scan`: the reference, a left-to-right pass over the whole stream;
* `scan_append_compact`: dropping bytes that cannot start a magic loses no frame;
* `Settled`: a window that holds no complete header or frame;
* `tryWindow_scan`, `feedAll_scan`: one attempt and the calling loop keep the scan;
* `parse_eq_scan`: the parser over any chunks is the scan of their concatenation.
-/

namespace Ninlil.Control

open Bytes

/-! ### The reference -/

/-- The frames of a byte stream.  At each position a valid header is accepted and its declared
frame is passed, emitted if its checksum matches; any other position is passed by one byte. -/
def scan (bytes : List UInt8) : List FrameView :=
  if _h : bytes.length < headerBytes then []
  else
    match validateHeaderFields (bytes.take headerBytes) with
    | .error _ => scan (bytes.drop 1)
    | .ok payloadLength =>
      if bytes.length < overheadBytes + payloadLength then []
      else if frameCrcMatches bytes payloadLength then
        frameView bytes payloadLength :: scan (bytes.drop (overheadBytes + payloadLength))
      else scan (bytes.drop (overheadBytes + payloadLength))
termination_by bytes.length
decreasing_by
  all_goals
    simp only [List.length_drop, headerBytes, overheadBytes] at _h ⊢
    omega

variable {bytes : List UInt8}

theorem scan_short (h : bytes.length < headerBytes) : scan bytes = [] := by
  rw [scan, dif_pos h]

theorem scan_error {r : FrameResult}
    (hv : validateHeaderFields (bytes.take headerBytes) = .error r) :
    scan bytes = scan (bytes.drop 1) := by
  by_cases h : bytes.length < headerBytes
  · rw [scan_short h, scan_short (by rw [List.length_drop]; omega)]
  · rw [scan, dif_neg h, hv]

theorem scan_incomplete {n : ℕ}
    (hv : validateHeaderFields (bytes.take headerBytes) = .ok n)
    (hn : bytes.length < overheadBytes + n) : scan bytes = [] := by
  by_cases h : bytes.length < headerBytes
  · exact scan_short h
  · rw [scan, dif_neg h, hv]
    exact if_pos hn

theorem scan_complete {n : ℕ}
    (hv : validateHeaderFields (bytes.take headerBytes) = .ok n)
    (hn : overheadBytes + n ≤ bytes.length) :
    scan bytes = (if frameCrcMatches bytes n then [frameView bytes n] else [])
      ++ scan (bytes.drop (overheadBytes + n)) := by
  have h : ¬bytes.length < headerBytes := by
    simp only [headerBytes, overheadBytes] at hn ⊢
    omega
  rw [scan, dif_neg h, hv]
  dsimp only
  rw [if_neg (not_lt.2 hn)]
  split_ifs
  · rfl
  · rfl

/-! ### Positions that cannot start a frame -/

theorem validateHeaderFields_of_not_magic {header : List UInt8} (h : magicMatches header = false) :
    validateHeaderFields header = .error .badMagic := by
  rw [validateHeaderFields, if_pos h]

theorem magicMatches_take {k : ℕ} (h : 4 ≤ k) :
    magicMatches (bytes.take k) = magicMatches bytes := by
  rw [magicMatches, List.take_take, Nat.min_eq_left h, ← magicMatches]

/-- The magic does not start here. -/
theorem scan_of_not_magic (h : magicMatches bytes = false) :
    scan bytes = scan (bytes.drop 1) := by
  refine scan_error (validateHeaderFields_of_not_magic ?_)
  rw [magicMatches_take (by decide)]
  exact h

theorem scan_drop {k : ℕ}
    (h : ∀ i < k, magicMatches (bytes.drop i) = false) : scan bytes = scan (bytes.drop k) := by
  induction k with
  | zero => rfl
  | succ k ih =>
    rw [ih fun i hi => h i (Nat.lt_succ_of_lt hi), scan_of_not_magic (h k (Nat.lt_succ_self k)),
      List.drop_drop]

theorem magicMatches_append {w rest : List UInt8} (h : 4 ≤ w.length) :
    magicMatches (w ++ rest) = magicMatches w := by
  rw [magicMatches, magicMatches, List.take_append_of_le_length h]

/-- A short window that is not the start of a magic does not become one. -/
theorem magicMatches_append_of_short {w rest : List UInt8} (hw : w.length < 4)
    (h : w ≠ magicBytes.take w.length) : magicMatches (w ++ rest) = false := by
  rw [magicMatches, beq_eq_false_iff_ne]
  intro heq
  refine h ?_
  rw [← heq, List.take_take, Nat.min_eq_left hw.le, List.take_left]

variable {w : List UInt8}

theorem magicPrefixMatches_self (h0 : w ≠ []) (h4 : w.length ≤ 4) :
    magicPrefixMatches w w.length = true ↔ w = magicBytes.take w.length := by
  have h1 : 1 ≤ w.length := List.length_pos_iff.2 h0
  simp [magicPrefixMatches, h1, h4]

/-! ### Compaction -/

/-- Compaction drops a number of bytes, none of which can start a magic. -/
theorem compact_spec (w : List UInt8) :
    ∃ k, compactToMagicOrPrefix w = w.drop k
      ∧ ∀ rest, ∀ i < k, magicMatches ((w ++ rest).drop i) = false := by
  unfold compactToMagicOrPrefix
  -- positions before the last three are decided by the window alone
  have hfull : ∀ i, i + 4 ≤ w.length → magicMatches (w.drop i) = false →
      ∀ rest, magicMatches ((w ++ rest).drop i) = false := by
    intro i hi hm rest
    rw [List.drop_append_of_le_length (by omega),
      magicMatches_append (by rw [List.length_drop]; omega)]
    exact hm
  cases hfind : (List.range (w.length - 3)).find? fun i => magicMatches (w.drop i) with
  | some k =>
    refine ⟨k, rfl, fun rest i hi => ?_⟩
    obtain ⟨hk, -, hbefore⟩ := List.find?_range_eq_some.1 hfind
    have hlt : i < w.length - 3 := hi.trans (List.mem_range.1 (List.mem_of_find?_eq_some hfind))
    exact hfull i (by omega) (by simpa using hbefore i hi) rest
  | none =>
    have hnone : ∀ i, i + 4 ≤ w.length → magicMatches (w.drop i) = false := by
      intro i hi
      have := List.find?_eq_none.1 hfind i (List.mem_range.2 (by omega))
      simpa using this
    -- the last three are decided by the suffix being the start of a magic
    have hshort : ∀ j, 1 ≤ j → j ≤ 3 → j ≤ w.length →
        (decide (j ≤ w.length) && magicPrefixMatches (w.drop (w.length - j)) j) = false →
        ∀ rest, magicMatches ((w ++ rest).drop (w.length - j)) = false := by
      intro j h1 h3 hj hp rest
      have hlen : (w.drop (w.length - j)).length = j := by
        rw [List.length_drop]
        omega
      rw [List.drop_append_of_le_length (by omega)]
      refine magicMatches_append_of_short (by omega) fun heq => ?_
      have hne : w.drop (w.length - j) ≠ [] := by
        intro h0
        rw [h0] at hlen
        simp at hlen
        omega
      have hm := (magicPrefixMatches_self hne (by omega)).2 heq
      rw [hlen] at hm
      simp [hj, hm] at hp
    have hkeep : ∀ keep ≤ 3,
        (∀ j, keep < j → j ≤ 3 →
          (decide (j ≤ w.length) && magicPrefixMatches (w.drop (w.length - j)) j) = false) →
        ∀ rest, ∀ i < w.length - keep, magicMatches ((w ++ rest).drop i) = false := by
      intro keep _ hlater rest i hi
      by_cases hi4 : i + 4 ≤ w.length
      · exact hfull i hi4 (hnone i hi4) rest
      · have := hshort (w.length - i) (by omega) (by omega) (by omega)
          (hlater (w.length - i) (by omega) (by omega)) rest
        rwa [Nat.sub_sub_self (by omega)] at this
    dsimp only
    cases hsuffix : [3, 2, 1].find? fun i =>
        decide (i ≤ w.length) && magicPrefixMatches (w.drop (w.length - i)) i with
    | some keep =>
      refine ⟨w.length - keep, rfl, ?_⟩
      simp only [List.find?_cons, List.find?_nil] at hsuffix
      split at hsuffix
      · obtain rfl : 3 = keep := by simpa using hsuffix
        exact hkeep 3 le_rfl fun j h1 h2 => absurd h1 (by omega)
      split at hsuffix
      · obtain rfl : 2 = keep := by simpa using hsuffix
        refine hkeep 2 (by omega) fun j h1 h2 => ?_
        obtain rfl : j = 3 := by omega
        assumption
      split at hsuffix
      · obtain rfl : 1 = keep := by simpa using hsuffix
        refine hkeep 1 (by omega) fun j h1 h2 => ?_
        obtain rfl | rfl : j = 3 ∨ j = 2 := by omega
        · assumption
        · assumption
      · cases hsuffix
    | none =>
      refine ⟨w.length, by simp, ?_⟩
      refine hkeep 0 (by omega) fun j h1 h2 => ?_
      have := List.find?_eq_none.1 hsuffix j
        (by simp only [List.mem_cons, List.not_mem_nil, or_false]; omega)
      simpa using this

theorem scan_append_compact (w rest : List UInt8) :
    scan (w ++ rest) = scan (compactToMagicOrPrefix w ++ rest) := by
  obtain ⟨k, hk, hskip⟩ := compact_spec w
  rw [hk]
  by_cases hlen : k ≤ w.length
  · rw [scan_drop (hskip rest), List.drop_append_of_le_length hlen]
  · rw [List.drop_eq_nil_of_le (by omega), List.nil_append,
      scan_drop (k := w.length) fun i hi => hskip rest i (by omega), List.drop_left]

theorem length_compact_le (w : List UInt8) : (compactToMagicOrPrefix w).length ≤ w.length := by
  obtain ⟨k, hk, -⟩ := compact_spec w
  rw [hk, List.length_drop]
  omega

/-- A window that does not start with a magic gets shorter. -/
theorem length_compact_lt (h : 4 ≤ w.length) (hm : magicMatches w = false) :
    (compactToMagicOrPrefix w).length < w.length := by
  unfold compactToMagicOrPrefix
  split
  · rename_i i hfind
    have hi : i ≠ 0 := by
      rintro rfl
      have := List.find?_some hfind
      rw [List.drop_zero, hm] at this
      cases this
    rw [List.length_drop]
    omega
  · split
    · rename_i keep hfind
      have hmem := List.mem_of_find?_eq_some hfind
      simp only [List.mem_cons, List.not_mem_nil, or_false] at hmem
      rw [List.length_drop]
      omega
    · simp only [List.length_nil]
      omega

/-! ### Frames at the front of a longer stream -/

section Front

variable {w rest : List UInt8} {n : ℕ}

theorem decodeU16Be_append {o : ℕ} (h : o + 2 ≤ w.length) :
    decodeU16Be (w ++ rest) o = decodeU16Be w o := by
  rw [decodeU16Be, decodeU16Be, slice_append_left h]

theorem decodeU32Be_append {o : ℕ} (h : o + 4 ≤ w.length) :
    decodeU32Be (w ++ rest) o = decodeU32Be w o := by
  rw [decodeU32Be, decodeU32Be, slice_append_left h]

theorem getD_append {o : ℕ} (h : o < w.length) : (w ++ rest).getD o 0 = w.getD o 0 := by
  rw [List.getD_eq_getElem?_getD, List.getD_eq_getElem?_getD, List.getElem?_append_left h]

theorem frameCrcMatches_append (h : overheadBytes + n ≤ w.length) :
    frameCrcMatches (w ++ rest) n = frameCrcMatches w n := by
  simp only [overheadBytes] at h
  rw [frameCrcMatches, frameCrcMatches, decodeU32Be_append (by simp only [headerBytes]; omega),
    List.take_append_of_le_length (by simp only [headerBytes]; omega)]

theorem frameView_append (h : overheadBytes + n ≤ w.length) :
    frameView (w ++ rest) n = frameView w n := by
  simp only [overheadBytes] at h
  simp only [frameView, FrameView.mk.injEq]
  refine ⟨getD_append (by omega), getD_append (by omega), decodeU16Be_append (by omega),
    decodeU32Be_append (by omega), decodeU32Be_append (by omega), trivial,
      decodeU32Be_append (by omega), decodeU32Be_append ?_, slice_append_left ?_⟩
  · simp only [headerBytes]
    omega
  · simp only [headerBytes]
    omega

theorem scan_append_complete (hv : validateHeaderFields (w.take headerBytes) = .ok n)
    (h : overheadBytes + n ≤ w.length) :
    scan (w ++ rest) = (if frameCrcMatches w n then [frameView w n] else [])
      ++ scan (w.drop (overheadBytes + n) ++ rest) := by
  have hlen : headerBytes ≤ w.length := by
    simp only [overheadBytes, headerBytes] at h ⊢
    omega
  have hv' : validateHeaderFields ((w ++ rest).take headerBytes) = .ok n := by
    rw [List.take_append_of_le_length hlen]
    exact hv
  rw [scan_complete hv' (by rw [List.length_append]; omega), frameCrcMatches_append h,
    frameView_append h, List.drop_append_of_le_length h]

theorem scan_append_error {r : FrameResult} (hlen : headerBytes ≤ w.length)
    (hv : validateHeaderFields (w.take headerBytes) = .error r) :
    scan (w ++ rest) = scan (w.drop 1 ++ rest) := by
  have hv' : validateHeaderFields ((w ++ rest).take headerBytes) = .error r := by
    rw [List.take_append_of_le_length hlen]
    exact hv
  rw [scan_error hv', List.drop_append_of_le_length]
  simp only [headerBytes] at hlen
  omega

end Front

/-! ### One attempt -/

/-- The frame that an attempt emits. -/
def emitted (r : FrameResult × Parser) : List FrameView :=
  if r.1 = .ok then r.2.lastFrame.toList else []

theorem window_discardTrustedCandidate_scan (parser : Parser) (k : ℕ) (rest : List UInt8) :
    scan ((discardTrustedCandidate parser k).window ++ rest)
      = scan (parser.window.drop k ++ rest) := by
  unfold discardTrustedCandidate
  dsimp only
  split_ifs
  · rfl
  · exact (scan_append_compact _ _).symm

theorem validateHeaderFields_ne_ok {header : List UInt8} {r : FrameResult}
    (h : validateHeaderFields header = .error r) : r ≠ .ok ∧ r ≠ .needMore := by
  unfold validateHeaderFields at h
  split_ifs at h
  all_goals
    cases h
    exact ⟨nofun, nofun⟩

theorem tryHeader_scan (parser : Parser) (rest : List UInt8) :
    scan (parser.window ++ rest)
      = emitted (tryHeader parser) ++ scan ((tryHeader parser).2.window ++ rest) := by
  unfold tryHeader
  split_ifs with hlen
  · rfl
  · have hlen' : headerBytes ≤ parser.window.length := not_lt.1 hlen
    cases hv : validateHeaderFields (parser.window.take headerBytes) with
    | error r =>
      have hne : parser.window ≠ [] := by
        intro h0
        rw [h0] at hlen'
        simp [headerBytes] at hlen'
      have hw : (noteReject parser r).window = parser.window := rfl
      dsimp only
      rw [scan_append_error hlen' hv, emitted, if_neg (validateHeaderFields_ne_ok hv).1,
        List.nil_append, resyncUntrusted, if_neg (by rw [hw]; exact hne)]
      exact scan_append_compact _ _
    | ok n =>
      dsimp only
      split_ifs with hn hcrc
      · rfl
      · rw [scan_append_complete hv (not_lt.1 hn), hcrc,
          window_discardTrustedCandidate_scan]
        rfl
      · rw [scan_append_complete hv (not_lt.1 hn), if_pos (by simpa using hcrc)]
        rfl

/-- An attempt emits the next frame of the scan, or none, whatever follows the window. -/
theorem tryWindow_scan (parser : Parser) (rest : List UInt8) :
    scan (parser.window ++ rest)
      = emitted (tryWindow parser) ++ scan ((tryWindow parser).2.window ++ rest) := by
  unfold tryWindow
  dsimp only
  split_ifs
  · rfl
  · rfl
  · exact scan_append_compact _ _
  · exact scan_append_compact _ _
  · exact tryHeader_scan parser rest
  · exact scan_append_compact _ _
  · exact scan_append_compact _ _
  · rw [← tryHeader_scan]
    exact scan_append_compact _ _

/-! ### Settled windows -/

/-- The window holds no complete header, or a valid one whose frame is not complete. -/
def Settled (w : List UInt8) : Prop :=
  w.length < headerBytes
    ∨ ∃ n, validateHeaderFields (w.take headerBytes) = .ok n ∧ w.length < overheadBytes + n

/-- The window holds at most one byte more. -/
def NearlySettled (w : List UInt8) : Prop :=
  w.length ≤ headerBytes
    ∨ ∃ n, validateHeaderFields (w.take headerBytes) = .ok n ∧ w.length ≤ overheadBytes + n

theorem Settled.scan (h : Settled w) : scan w = [] := by
  rcases h with h | ⟨n, hv, hn⟩
  · exact scan_short h
  · exact scan_incomplete hv hn

theorem settled_nil : Settled [] := .inl (by decide)

theorem Settled.nearly (h : Settled w) : NearlySettled w := by
  rcases h with h | ⟨n, hv, hn⟩
  · exact .inl h.le
  · exact .inr ⟨n, hv, hn.le⟩

theorem Settled.append (h : Settled w) (b : UInt8) : NearlySettled (w ++ [b]) := by
  by_cases hlen : w.length < headerBytes
  · left
    simpa using hlen
  · obtain ⟨n, hv, hn⟩ := h.resolve_left hlen
    refine .inr ⟨n, ?_, by simpa using hn⟩
    rw [List.take_append_of_le_length (not_lt.1 hlen)]
    exact hv

theorem payloadLength_le {header : List UInt8} {n : ℕ} (h : validateHeaderFields header = .ok n) :
    n ≤ maxPayloadBytes := by
  unfold validateHeaderFields at h
  split_ifs at h with _ _ _ _ hlen
  cases h
  exact not_lt.1 hlen

theorem Settled.length_lt (h : Settled w) : w.length < maxBytes := by
  rcases h with h | ⟨n, hv, hn⟩
  · simp only [headerBytes, maxBytes, overheadBytes, maxPayloadBytes] at h ⊢
    omega
  · have := payloadLength_le hv
    simp only [maxBytes] at this ⊢
    omega

/-- What an attempt on a nearly settled window leaves: a settled window, and a frame only if it
filled the window. -/
structure Attempt (p : Parser) (r : FrameResult × Parser) : Prop where
  settled : Settled r.2.window
  shorter : r.2.window.length ≤ p.window.length
  whole : r.1 = .ok → r.2.window = [] ∧ overheadBytes ≤ p.window.length ∧ r.2.frameReady = true
  kept : r.1 ≠ .ok → r.2.frameReady = p.frameReady

variable {p : Parser}

theorem tryHeader_attempt (h : NearlySettled p.window) :
    Attempt p (tryHeader p) := by
  unfold tryHeader
  split_ifs with hlen
  · exact ⟨.inl hlen, le_rfl, nofun, fun _ => rfl⟩
  cases hv : validateHeaderFields (p.window.take headerBytes) with
  | error r =>
    -- only a header that was just completed can be rejected
    have hle : p.window.length ≤ headerBytes := by
      rcases h with h | ⟨n, hn, -⟩
      · exact h
      · rw [hv] at hn
        cases hn
    have hne : p.window ≠ [] := by
      intro h0
      rw [h0] at hlen
      simp [headerBytes] at hlen
    have hw : (resyncUntrusted (noteReject p r)).window
        = compactToMagicOrPrefix (p.window.drop 1) := by
      rw [resyncUntrusted, if_neg (show (noteReject p r).window ≠ [] from hne)]
      rfl
    have hready : (resyncUntrusted (noteReject p r)).frameReady = p.frameReady := by
      rw [resyncUntrusted, if_neg (show (noteReject p r).window ≠ [] from hne)]
      rfl
    have hdrop := length_compact_le (p.window.drop 1)
    rw [List.length_drop] at hdrop
    have hpos : 0 < p.window.length := List.length_pos_iff.2 hne
    exact ⟨.inl (by rw [hw]; omega), by rw [hw]; omega,
      fun hr => absurd hr (validateHeaderFields_ne_ok hv).1, fun _ => hready⟩
  | ok n =>
    dsimp only
    have hle : p.window.length ≤ overheadBytes + n := by
      rcases h with h | ⟨n', hn', h⟩
      · simp only [headerBytes, overheadBytes] at h ⊢
        omega
      · rw [hv] at hn'
        cases hn'
        exact h
    have hnil : p.window.drop (overheadBytes + n) = [] := List.drop_eq_nil_of_le hle
    split_ifs with hn hcrc
    · exact ⟨.inr ⟨n, hv, hn⟩, le_rfl, nofun, fun _ => rfl⟩
    · have hw : (discardTrustedCandidate (noteReject p .badFrameCrc) (overheadBytes + n)).window
          = [] := by
        unfold discardTrustedCandidate
        simp only [noteReject, hnil]
        rfl
      have hready : (discardTrustedCandidate (noteReject p .badFrameCrc)
          (overheadBytes + n)).frameReady = p.frameReady := by
        unfold discardTrustedCandidate
        dsimp only
        split_ifs
        · rfl
        · rfl
      exact ⟨by rw [hw]; exact settled_nil, by rw [hw]; exact Nat.zero_le _, nofun,
        fun _ => hready⟩
    · refine ⟨?_, ?_, fun _ => ⟨hnil, ?_, rfl⟩, fun hr => absurd rfl hr⟩
      · dsimp only
        rw [hnil]
        exact settled_nil
      · dsimp only
        rw [hnil]
        exact Nat.zero_le _
      · omega

theorem compact_settled (h : NearlySettled w) (hm : magicMatches w = false) :
    Settled (compactToMagicOrPrefix w) := by
  have hle : w.length ≤ headerBytes := by
    rcases h with h | ⟨n, hv, -⟩
    · exact h
    · rw [validateHeaderFields_of_not_magic] at hv
      · cases hv
      · rw [magicMatches_take (by decide)]
        exact hm
  left
  by_cases h4 : 4 ≤ w.length
  · exact lt_of_lt_of_le (length_compact_lt h4 hm) hle
  · have := length_compact_le w
    simp only [headerBytes]
    omega

theorem tryWindow_attempt (h : NearlySettled p.window) :
    Attempt p (tryWindow p) := by
  unfold tryWindow
  dsimp only
  split_ifs with h0 h4 hpre hnil hm hnil' hshort
  · exact ⟨by rw [h0]; exact settled_nil, le_rfl, nofun, fun _ => rfl⟩
  · exact ⟨.inl (by simp only [headerBytes]; omega), le_rfl, nofun, fun _ => rfl⟩
  · have hle := length_compact_le p.window
    exact ⟨.inl (by simp only [headerBytes, skipTo]; omega), hle, nofun, fun _ => rfl⟩
  · have hle := length_compact_le p.window
    exact ⟨.inl (by simp only [headerBytes, skipTo]; omega), hle, nofun, fun _ => rfl⟩
  · exact tryHeader_attempt h
  · exact ⟨compact_settled h (by simpa using hm), length_compact_le _, nofun, fun _ => rfl⟩
  · exact ⟨compact_settled h (by simpa using hm), length_compact_le _, nofun, fun _ => rfl⟩
  · have hs : Settled (compactToMagicOrPrefix p.window) := compact_settled h (by simpa using hm)
    have ha := tryHeader_attempt
      (p := noteReject (skipTo p (compactToMagicOrPrefix p.window)) .badMagic) hs.nearly
    exact ⟨ha.settled, ha.shorter.trans (length_compact_le _),
      fun hr => ⟨(ha.whole hr).1, (ha.whole hr).2.1.trans (length_compact_le _), (ha.whole hr).2.2⟩,
      ha.kept⟩

theorem tryHeader_of_settled (h : Settled p.window) :
    (tryHeader p).1 = .needMore := by
  unfold tryHeader
  rcases h with h | ⟨n, hv, hn⟩
  · rw [if_pos h]
  · split_ifs
    · rfl
    · rw [hv]
      dsimp only
      rw [if_pos hn]

/-- On a settled window an attempt waits for more, or gives the whole window up. -/
theorem tryWindow_of_settled (h : Settled p.window) :
    (tryWindow p).1 = .needMore
      ∨ ((tryWindow p).1 = .badMagic ∧ (tryWindow p).2.window = [] ∧ p.window ≠ []) := by
  unfold tryWindow
  dsimp only
  split_ifs with h0 h4 hpre hnil hm hnil' hshort
  · exact .inl rfl
  · exact .inl rfl
  · exact .inr ⟨rfl, hnil, h0⟩
  · exact .inl rfl
  · exact .inl (tryHeader_of_settled h)
  · exact .inr ⟨rfl, hnil', h0⟩
  · exact .inl rfl
  · exact .inl (tryHeader_of_settled (compact_settled h.nearly (by simpa using hm)))

/-! ### One call -/

/-- A parser between calls: its window is settled, and no frame is ready. -/
structure Idle (p : Parser) : Prop where
  settled : Settled p.window
  ready : p.frameReady = false

/-- What consuming some bytes did: the scan of the window and these bytes is the frame left ready,
followed by the scan of the new window. -/
structure Progress (p : Parser) (used : List UInt8) (q : Parser) : Prop where
  scan : ∀ tail, scan (p.window ++ used ++ tail) = readyFrame q ++ Control.scan (q.window ++ tail)
  settled : Settled q.window
  shorter : q.window.length ≤ p.window.length + used.length
  whole : q.frameReady = true → q.window = [] ∧ overheadBytes ≤ p.window.length + used.length

theorem readyFrame_eq_nil (h : p.frameReady = false) : readyFrame p = [] := by
  rw [readyFrame, h]
  rfl

theorem Progress.trans {p q r : Parser} {u v : List UInt8} (h : Progress p u q)
    (hq : q.frameReady = false) (h' : Progress q v r) : Progress p (u ++ v) r where
  scan := fun tail => by
    have h1 := h.scan (v ++ tail)
    have h2 := h'.scan tail
    rw [readyFrame_eq_nil hq, List.nil_append] at h1
    rw [← h2, List.append_assoc q.window, ← h1]
    simp only [List.append_assoc]
  settled := h'.settled
  shorter := by
    have := h.shorter
    have := h'.shorter
    rw [List.length_append]
    omega
  whole := fun hr => by
    have := h.shorter
    have := h'.whole hr
    rw [List.length_append]
    exact ⟨this.1, by omega⟩

theorem readyFrame_of_attempt (hp : p.frameReady = false)
    {r : FrameResult × Parser} (ha : Attempt p r) : readyFrame r.2 = emitted r := by
  by_cases hr : r.1 = .ok
  · rw [readyFrame, (ha.whole hr).2.2, emitted, if_pos hr]
    rfl
  · rw [readyFrame_eq_nil ((ha.kept hr).trans hp), emitted, if_neg hr]

/-- An attempt that consumes nothing. -/
theorem tryWindow_progress (h : Idle p) : Progress p [] (tryWindow p).2 := by
  have ha := tryWindow_attempt h.settled.nearly
  refine ⟨fun tail => ?_, ha.settled, by simpa using ha.shorter, fun hr => ?_⟩
  · rw [List.append_nil, readyFrame_of_attempt h.ready ha]
    exact tryWindow_scan p tail
  · by_cases hok : (tryWindow p).1 = .ok
    · exact ⟨(ha.whole hok).1, by simpa using (ha.whole hok).2.1⟩
    · rw [ha.kept hok, h.ready] at hr
      cases hr

/-- An attempt after one more byte. -/
theorem appendByte_progress (h : Idle p) (b : UInt8) :
    Progress p [b] (tryWindow (appendByte p b)).2 := by
  have ha := tryWindow_attempt (p := appendByte p b) (h.settled.append b)
  have hlen : (appendByte p b).window.length = p.window.length + [b].length := by
    simp [appendByte]
  refine ⟨fun tail => ?_, ha.settled, hlen ▸ ha.shorter, fun hr => ?_⟩
  · rw [readyFrame_of_attempt (p := appendByte p b) h.ready ha]
    exact tryWindow_scan (appendByte p b) tail
  · by_cases hok : (tryWindow (appendByte p b)).1 = .ok
    · exact ⟨(ha.whole hok).1, hlen ▸ (ha.whole hok).2.1⟩
    · rw [ha.kept hok, show (appendByte p b).frameReady = p.frameReady from rfl, h.ready] at hr
      cases hr

theorem idle_of_ne_ok (hp : p.frameReady = false) {r : FrameResult × Parser}
    (ha : Attempt p r) (hr : r.1 ≠ .ok) : Idle r.2 := ⟨ha.settled, (ha.kept hr).trans hp⟩

/-- The ways one iteration of the loop goes on from an idle parser. -/
inductive Iteration (guard : ℕ) (p : Parser) (rest : List UInt8) : Prop
  /-- the input is used up -/
  | ends (r : FrameResult) (q : Parser) (hq : Idle q) (h : Progress p [] q) (hr : rest = [])
      (heq : feedLoop (guard + 1) p rest = (r, q, []))
  /-- the window is given up, and input is left -/
  | clears (q : Parser) (hq : Idle q) (h : Progress p [] q) (hp : p.window ≠ [])
      (hw : q.window = []) (hr : rest ≠ [])
      (heq : feedLoop (guard + 1) p rest = feedLoop guard q rest)
  /-- one byte is taken, and the call returns -/
  | returns (b : UInt8) (rest' : List UInt8) (r : FrameResult) (q : Parser)
      (hr : rest = b :: rest') (h : Progress p [b] q)
      (hdone : q.frameReady = true ∨ rest' = [])
      (heq : feedLoop (guard + 1) p rest = (r, q, rest'))
  /-- one byte is taken, and the loop goes on -/
  | takes (b : UInt8) (rest' : List UInt8) (q : Parser) (hq : Idle q) (hr : rest = b :: rest')
      (h : Progress p [b] q)
      (heq : feedLoop (guard + 1) p rest = feedLoop guard q rest')

theorem feedLoop_iteration (guard : ℕ) (rest : List UInt8) (h : Idle p) :
    Iteration guard p rest := by
  have ha := tryWindow_attempt h.settled.nearly
  have hprog := tryWindow_progress h
  cases htry : tryWindow p with
  | mk r q =>
    rw [htry] at ha hprog
    rcases tryWindow_of_settled h.settled with hmore | ⟨hbad, hnil, hne⟩
    · -- the window waits for more
      rw [htry] at hmore
      dsimp only at hmore
      subst hmore
      have hq : Idle q := idle_of_ne_ok h.ready ha nofun
      cases rest with
      | nil => exact .ends .needMore q hq hprog rfl (by simp only [feedLoop, htry])
      | cons b rest =>
        have hroom : ¬q.window.length ≥ maxBytes := not_le.2 hq.settled.length_lt
        have hprog' : Progress p [b] (tryWindow (appendByte q b)).2 :=
          hprog.trans hq.ready (appendByte_progress hq b)
        have ha' := tryWindow_attempt (p := appendByte q b) (hq.settled.append b)
        cases htry' : tryWindow (appendByte q b) with
        | mk r' q' =>
          rw [htry'] at hprog' ha'
          have heq : feedLoop (guard + 1) p (b :: rest)
              = if r' = .ok then (.ok, q', rest)
                else if r' ≠ .needMore ∧ q'.window = [] ∧ rest = [] then (r', q', rest)
                else feedLoop guard q' rest := by
            rw [feedLoop, htry]
            dsimp only
            refine (if_neg hroom).trans ?_
            rw [htry']
            cases r' with
            | ok | _ => rfl
          by_cases hok : r' = .ok
          · subst hok
            exact .returns b rest .ok q' rfl hprog' (.inl (ha'.whole rfl).2.2) heq
          · have heq' := heq.trans (if_neg hok)
            split_ifs at heq' with hend
            · exact .returns b rest r' q' rfl hprog' (.inr hend.2.2) heq'
            · have hq' : Idle q' := idle_of_ne_ok (p := appendByte q b) hq.ready ha' hok
              exact .takes b rest q' hq' rfl hprog' heq'
    · rw [htry] at hbad hnil
      dsimp only at hbad hnil
      subst hbad
      have hq : Idle q := idle_of_ne_ok h.ready ha nofun
      by_cases hr : rest = []
      · subst hr
        exact .ends .badMagic q hq hprog rfl (by simp [feedLoop, htry, hnil])
      · exact .clears q hq hprog hne hnil hr (by simp [feedLoop, htry, hnil, hr])

/-- A call consumes a part of its input and leaves the frame it completed, if any. -/
theorem feedLoop_progress (guard : ℕ) (rest : List UInt8) (h : Idle p) :
    ∃ used, rest = used ++ (feedLoop guard p rest).2.2
      ∧ Progress p used (feedLoop guard p rest).2.1 := by
  induction guard generalizing p rest with
  | zero => exact ⟨[], rfl, tryWindow_progress h⟩
  | succ guard ih =>
    cases feedLoop_iteration guard rest h with
    | ends r q hq hp hr heq =>
      rw [heq, hr]
      exact ⟨[], rfl, hp⟩
    | clears q hq hp hne hw hr heq =>
      obtain ⟨used, hused, hprog⟩ := ih rest hq
      rw [heq]
      exact ⟨used, hused, hp.trans hq.ready hprog⟩
    | returns b rest' r q hr hp hdone heq =>
      rw [heq, hr]
      exact ⟨[b], rfl, hp⟩
    | takes b rest' q hq hr hp heq =>
      obtain ⟨used, hused, hprog⟩ := ih rest' hq
      rw [heq, hr]
      exact ⟨b :: used, congrArg (b :: ·) hused, hp.trans hq.ready hprog⟩

/-- A call with input left takes at least one byte. -/
theorem feedLoop_consumes {guard : ℕ} (hg : 2 ≤ guard) {rest : List UInt8}
    (hr : rest ≠ []) (h : Idle p) : (feedLoop guard p rest).2.2.length < rest.length := by
  obtain ⟨guard, rfl⟩ : ∃ k, guard = k + 1 := ⟨guard - 1, by omega⟩
  have htakes : ∀ g b (rest' : List UInt8) q, Idle q →
      (feedLoop g q rest').2.2.length < (b :: rest').length := by
    intro g b rest' q hq
    obtain ⟨used, hused, -⟩ := feedLoop_progress g rest' hq
    have := congrArg List.length hused
    rw [List.length_append] at this
    rw [List.length_cons]
    omega
  cases feedLoop_iteration guard rest h with
  | ends r q hq hp hnil heq => exact absurd hnil hr
  | returns b rest' r q hrest hp hdone heq =>
    rw [heq, hrest]
    exact Nat.lt_succ_self _
  | takes b rest' q hq hrest hp heq =>
    rw [heq, hrest]
    exact htakes guard b rest' q hq
  | clears q hq hp hne hw hrest heq =>
    -- the window is empty now, so the next iteration takes a byte
    rw [heq]
    obtain ⟨guard, rfl⟩ : ∃ k, guard = k + 1 := ⟨guard - 1, by omega⟩
    cases feedLoop_iteration guard rest hq with
    | ends r q' hq' hp' hnil heq' => exact absurd hnil hr
    | clears q' hq' hp' hne' hw' hrest' heq' => exact absurd hw hne'
    | returns b rest' r q' hrest' hp' hdone heq' =>
      rw [heq', hrest']
      exact Nat.lt_succ_self _
    | takes b rest' q' hq' hrest' hp' heq' =>
      rw [heq', hrest']
      exact htakes guard b rest' q' hq'

/-- The iterations a call can need: two for each byte, and one to clear the window. -/
def iterationsNeeded (p : Parser) (rest : List UInt8) : ℕ :=
  2 * rest.length + if p.window = [] then 0 else 1

/-- A call whose guard does not run out leaves a frame, or uses its input up. -/
theorem feedLoop_done (guard : ℕ) (rest : List UInt8) (h : Idle p)
    (hg : iterationsNeeded p rest < guard) :
    (feedLoop guard p rest).2.1.frameReady = true ∨ (feedLoop guard p rest).2.2 = [] := by
  induction guard generalizing p rest with
  | zero => omega
  | succ guard ih =>
    cases feedLoop_iteration guard rest h with
    | ends r q hq hp hr heq =>
      rw [heq]
      exact .inr rfl
    | clears q hq hp hne hw hr heq =>
      rw [heq]
      refine ih rest hq ?_
      simp only [iterationsNeeded, hw, hne, if_true, if_false] at hg ⊢
      omega
    | returns b rest' r q hr hp hdone heq =>
      rw [heq]
      exact hdone
    | takes b rest' q hq hr hp heq =>
      rw [heq]
      refine ih rest' hq ?_
      rw [hr] at hg
      simp only [iterationsNeeded, List.length_cons] at hg ⊢
      split_ifs at hg ⊢
      all_goals omega

theorem idle_reset (h : Settled p.window) :
    Idle { p with frameReady := false, lastFrame := none } := ⟨h, rfl⟩

theorem feed_progress (h : Settled p.window) (input : List UInt8) :
    ∃ used, input = used ++ (feed p input).2.2 ∧ Progress p used (feed p input).2.1 := by
  obtain ⟨used, hused, hp⟩ := feedLoop_progress feedGuardIters input (idle_reset h)
  exact ⟨used, hused, hp.scan, hp.settled, hp.shorter, hp.whole⟩

theorem feed_consumes (h : Settled p.window) {input : List UInt8} (hi : input ≠ []) :
    (feed p input).2.2.length < input.length :=
  feedLoop_consumes (by decide) hi (idle_reset h)

/-- On a short input the guard of the parser does not run out. -/
theorem feed_done (h : Settled p.window) {input : List UInt8}
    (hi : input.length ≤ 256) :
    (feed p input).2.1.frameReady = true ∨ (feed p input).2.2 = [] := by
  refine feedLoop_done feedGuardIters input (idle_reset h) ?_
  have hg : feedGuardIters = 4200 := rfl
  simp only [iterationsNeeded]
  split_ifs
  all_goals omega

/-! ### The calling loop -/

/-- One turn of the calling loop, with input left. -/
theorem feedAll_succ (h : Settled p.window) (guard : ℕ) {rest : List UInt8}
    (hr : rest ≠ []) :
    feedAll (guard + 1) p rest
      = let s := feedAll guard { (feed p rest).2.1 with frameReady := false } (feed p rest).2.2
        (readyFrame (feed p rest).2.1 ++ s.1, s.2.1, s.2.2) := by
  have hlt := feed_consumes h hr
  rw [feedAll, if_neg hr]
  dsimp only
  rw [if_neg fun hc => absurd hc.1 (by omega)]

/-- The loop, stopped after any number of calls, has emitted the frames of the scan so far. -/
theorem feedAll_scan (guard : ℕ) (h : Settled p.window) (rest : List UInt8) :
    Settled (feedAll guard p rest).2.1.window
      ∧ ∃ used, rest = used ++ (feedAll guard p rest).2.2
        ∧ ∀ tail, scan (p.window ++ used ++ tail)
          = (feedAll guard p rest).1 ++ scan ((feedAll guard p rest).2.1.window ++ tail) := by
  induction guard generalizing p rest with
  | zero => exact ⟨h, [], rfl, fun tail => by rw [List.append_nil]; rfl⟩
  | succ guard ih =>
    by_cases hr : rest = []
    · rw [feedAll, if_pos hr, hr]
      exact ⟨h, [], rfl, fun tail => by rw [List.append_nil]; rfl⟩
    · obtain ⟨used, hused, hp⟩ := feed_progress h rest
      obtain ⟨hs, used', hused', hscan⟩ :=
        ih (p := { (feed p rest).2.1 with frameReady := false }) hp.settled (feed p rest).2.2
      rw [feedAll_succ h guard hr]
      refine ⟨hs, used ++ used', ?_, fun tail => ?_⟩
      · rw [List.append_assoc, ← hused']
        exact hused
      · have h1 := hp.scan (used' ++ tail)
        have h2 := hscan tail
        rw [List.append_assoc] at h2
        simp only [List.append_assoc] at h1 h2 ⊢
        rw [h1]
        exact congrArg (readyFrame (feed p rest).2.1 ++ ·) h2

/-- With one call for each byte the loop uses its input up. -/
theorem feedAll_of_length_le {guard : ℕ} (h : Settled p.window) {rest : List UInt8}
    (hg : rest.length ≤ guard) : (feedAll guard p rest).2.2 = [] := by
  induction guard generalizing p rest with
  | zero =>
    obtain rfl : rest = [] := List.length_eq_zero_iff.1 (by omega)
    rfl
  | succ guard ih =>
    by_cases hr : rest = []
    · rw [feedAll, if_pos hr]
    · obtain ⟨used, hused, hp⟩ := feed_progress h rest
      have hlt := feed_consumes h hr
      rw [feedAll_succ h guard hr]
      exact ih (p := { (feed p rest).2.1 with frameReady := false }) hp.settled (by omega)

/-- From an empty window every frame takes its own bytes from the input, so that few calls are
enough for a short one. -/
theorem feedAll_short {guard : ℕ} (hw : p.window = []) {rest : List UInt8}
    (hlen : rest.length ≤ 256) (hg : rest.length < overheadBytes * guard) :
    (feedAll guard p rest).2.2 = [] := by
  induction guard generalizing p rest with
  | zero => omega
  | succ guard ih =>
    have h : Settled p.window := hw ▸ settled_nil
    by_cases hr : rest = []
    · rw [feedAll, if_pos hr]
    · obtain ⟨used, hused, hp⟩ := feed_progress h rest
      have hsum := congrArg List.length hused
      rw [List.length_append] at hsum
      rw [feedAll_succ h guard hr]
      rcases feed_done h hlen with hready | hnil
      · obtain ⟨hempty, hwhole⟩ := hp.whole hready
        rw [hw, List.length_nil, Nat.zero_add] at hwhole
        refine ih (p := { (feed p rest).2.1 with frameReady := false }) hempty (by omega) ?_
        rw [Nat.mul_succ] at hg
        omega
      · dsimp only
        rw [hnil]
        exact feedAll_of_length_le (p := { (feed p rest).2.1 with frameReady := false }) hp.settled
          (Nat.zero_le _)

/-- The guard of `feed_and_enqueue` never cuts a read of 256 bytes short. -/
theorem feedAll_read (h : Settled p.window) {data : List UInt8}
    (hlen : data.length ≤ 256) : (feedAll 64 p data).2.2 = [] := by
  by_cases hr : data = []
  · rw [feedAll, if_pos hr]
  · obtain ⟨used, hused, hp⟩ := feed_progress h data
    have hlt := feed_consumes h hr
    rw [feedAll_succ h 63 hr]
    rcases feed_done h hlen with hready | hnil
    · refine feedAll_short (p := { (feed p data).2.1 with frameReady := false })
        (hp.whole hready).1 (by omega) ?_
      simp only [overheadBytes]
      omega
    · dsimp only
      rw [hnil]
      exact feedAll_of_length_le (p := { (feed p data).2.1 with frameReady := false }) hp.settled
        (Nat.zero_le _)

/-! ### Streams -/

/-- A caller that feeds a stream chunk by chunk, what is left of a chunk again before the next. -/
def parse (p : Parser) : List (List UInt8) → List FrameView × Parser
  | [] => ([], p)
  | chunk :: chunks =>
    let r := feedAll chunk.length p chunk
    let s := parse r.2.1 chunks
    (r.1 ++ s.1, s.2)

theorem parse_scan (h : Settled p.window) (chunks : List (List UInt8)) :
    Settled (parse p chunks).2.window
      ∧ ∀ tail, scan (p.window ++ chunks.flatten ++ tail)
        = (parse p chunks).1 ++ scan ((parse p chunks).2.window ++ tail) := by
  induction chunks generalizing p with
  | nil => exact ⟨h, fun tail => by rw [List.flatten_nil, List.append_nil]; rfl⟩
  | cons chunk chunks ih =>
    obtain ⟨hs, used, hused, hscan⟩ := feedAll_scan chunk.length h chunk
    rw [feedAll_of_length_le h le_rfl, List.append_nil] at hused
    subst hused
    obtain ⟨hs', hscan'⟩ := ih hs
    refine ⟨hs', fun tail => ?_⟩
    have h1 := hscan (chunks.flatten ++ tail)
    have h2 := hscan' tail
    rw [List.append_assoc] at h2
    simp only [List.flatten_cons, List.append_assoc, parse] at h1 h2 ⊢
    rw [h1, h2]

/-- **The parser is the scan.**  However a stream is cut into chunks, the parser emits exactly the
frames of the left-to-right scan; after any number of calls its window is shorter than the longest
frame and holds no complete frame; and a read of at most 256 bytes is used up within the guard of
the calling loop. -/
theorem parse_eq_scan (chunks : List (List UInt8)) :
    (parse {} chunks).1 = scan chunks.flatten
      ∧ (∀ calls data, scan (feedAll calls (parse {} chunks).2 data).2.1.window = []
        ∧ (feedAll calls (parse {} chunks).2 data).2.1.window.length < maxBytes)
      ∧ ∀ data : List UInt8, data.length ≤ 256 → (feedAll 64 (parse {} chunks).2 data).2.2 = [] := by
  obtain ⟨hs, hscan⟩ := parse_scan (p := {}) settled_nil chunks
  refine ⟨?_, fun calls data => ?_, fun data hlen => feedAll_read hs hlen⟩
  · have h := hscan []
    rw [List.append_nil, List.append_nil, hs.scan, List.append_nil] at h
    exact h.symm
  · have h := (feedAll_scan calls hs data).1
    exact ⟨h.scan, h.length_lt⟩

end Ninlil.Control
