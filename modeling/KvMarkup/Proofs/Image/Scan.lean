import Mathlib
import KvMarkup.Image.Preview

/-!
# The frame of a JPEG file

A JPEG file is written as segments one after another: a `Segment` that opens no frame says how long
it is, and a `Frame` has a height and a width.  What follows two bytes and any number of segments is
found, whatever stands behind it:

    scanJpeg (a :: b :: (segments.flatMap bytes ++ frame.bytes ++ trailing)) =
      .frame frame.dimensions                                                   (scanJpeg_written)

In any bytes at all the scan goes from offset to offset (`Reached`), each segment taking two bytes at
least, and the dimensions are those of a frame that it reaches (`scanJpeg_eq_frame_iff`).

The scan takes bytes off a list, so there is nothing outside that it could read.  `checkedScan` is
the same scan by offsets, where each read is checked: a single byte has to be there, and so have the
bytes of a number.  It never asks for a byte that is not there, and finds the bytes of a number cut
off only in a frame (`checkedScan_eq`).
-/

namespace KvMarkup.Image

/-! ## Written segments -/

/-- A number of 16 bits, its high byte first. -/
def word (n : UInt16) : List UInt8 := [(n >>> 8).toUInt8, n.toUInt8]

theorem bigEndian_pair (high low : UInt8) :
    bigEndian [high, low] = 256 * high.toNat + low.toNat := by
  simp [bigEndian]

theorem bigEndian_word (n : UInt16) : bigEndian (word n) = n.toNat := by
  have hhigh : (n >>> 8).toUInt8.toNat = n.toNat / 256 := by
    have hlt := n.toNat_lt
    rw [UInt16.toNat_toUInt8, UInt16.toNat_shiftRight]
    simp only [UInt16.reduceToNat, Nat.reduceMod, Nat.shiftRight_eq_div_pow, Nat.reducePow]
    omega
  rw [word, bigEndian_pair, hhigh, UInt16.toNat_toUInt8]
  omega

/-- A segment that opens no frame, with what follows its length. -/
structure Segment where
  marker : UInt8
  payload : List UInt8
  opensNoFrame : isFrameMarker marker = false
  /-- The length counts itself, and has 16 bits. -/
  length_lt : payload.length + 2 < 0x10000

/-- The bytes of a segment: `FF`, the marker, the length and what follows. -/
def Segment.bytes (s : Segment) : List UInt8 :=
  0xFF :: s.marker :: (word (.ofNat (s.payload.length + 2)) ++ s.payload)

/-- The header of a frame; its first three bytes say nothing of its dimensions. -/
structure Frame where
  marker : UInt8
  opensFrame : isFrameMarker marker = true
  first : UInt8
  second : UInt8
  third : UInt8
  height : UInt16
  width : UInt16

/-- The bytes of a frame's header. -/
def Frame.bytes (f : Frame) : List UInt8 :=
  0xFF :: f.marker :: f.first :: f.second :: f.third :: (word f.height ++ word f.width)

/-- The dimensions of a frame. -/
def Frame.dimensions (f : Frame) : Dimensions := ⟨f.width.toNat, f.height.toNat⟩

/-- A scan goes past a segment. -/
theorem scanSegments_segment (s : Segment) (rest : List UInt8) :
    scanSegments (s.bytes ++ rest) = scanSegments rest := by
  have hlength : bigEndian (word (.ofNat (s.payload.length + 2))) = s.payload.length + 2 := by
    rw [bigEndian_word, UInt16.toNat_ofNat', Nat.mod_eq_of_lt s.length_lt]
  simp only [word] at hlength
  simp only [Segment.bytes, word, List.cons_append, List.nil_append]
  rw [scanSegments]
  simp only [bne_self_eq_false, Bool.false_eq_true, if_false, s.opensNoFrame, hlength,
    List.drop_succ_cons, List.drop_left]

/-- A scan ends at a frame with its dimensions. -/
theorem scanSegments_frame (f : Frame) (trailing : List UInt8) :
    scanSegments (f.bytes ++ trailing) = .frame f.dimensions := by
  have hheight := bigEndian_word f.height
  have hwidth := bigEndian_word f.width
  simp only [word] at hheight hwidth
  simp only [Frame.bytes, word, List.cons_append, List.nil_append]
  rw [scanSegments]
  simp only [bne_self_eq_false, Bool.false_eq_true, if_false, f.opensFrame, if_true, frameAt,
    List.length_cons, List.drop_succ_cons, List.drop_zero, List.take_succ_cons, List.take_zero,
    hheight, hwidth, Frame.dimensions]
  rw [if_neg (by omega)]

theorem scanSegments_chain (segments : List Segment) (f : Frame) (trailing : List UInt8) :
    scanSegments (segments.flatMap Segment.bytes ++ f.bytes ++ trailing) =
      .frame f.dimensions := by
  induction segments with
  | nil => exact scanSegments_frame f trailing
  | cons s segments ih =>
    rw [List.flatMap_cons, List.append_assoc, List.append_assoc, scanSegments_segment,
      ← List.append_assoc, ih]

theorem scanJpeg_written (a b : UInt8) (segments : List Segment) (f : Frame)
    (trailing : List UInt8) :
    scanJpeg (a :: b :: (segments.flatMap Segment.bytes ++ f.bytes ++ trailing)) =
      .frame f.dimensions :=
  scanSegments_chain segments f trailing

/-! ## Offsets -/

/-- The number of 16 bits at an offset. -/
def wordAt (bytes : List UInt8) (o : Nat) : Nat := bigEndian ((bytes.drop o).take 2)

/-- At the offset stand `FF` and a marker, and the two bytes behind them are there. -/
def MarkerAt (bytes : List UInt8) (o : Nat) (marker : UInt8) : Prop :=
  bytes[o]? = some 0xFF ∧ bytes[o + 1]? = some marker ∧ o + 4 ≤ bytes.length

/-- A segment that opens no frame begins at the offset. -/
def SegmentAt (bytes : List UInt8) (o : Nat) : Prop :=
  ∃ marker, MarkerAt bytes o marker ∧ isFrameMarker marker = false

/-- A frame begins at the offset. -/
def FrameAt (bytes : List UInt8) (o : Nat) : Prop :=
  ∃ marker, MarkerAt bytes o marker ∧ isFrameMarker marker = true

/-- The scan stands at an offset after a number of segments.  It begins at 2, and a segment moves it
on by 2 and the segment's length. -/
inductive Reached (bytes : List UInt8) : Nat → Nat → Prop where
  | start : Reached bytes 0 2
  | next {n o : Nat} (h : Reached bytes n o) (hs : SegmentAt bytes o) :
      Reached bytes (n + 1) (o + 2 + wordAt bytes (o + 2))

section
variable {bytes : List UInt8} {n o : Nat}

/-- Each segment takes two bytes at least, and all but the last are followed by two more. -/
theorem Reached.bounds (h : Reached bytes n o) :
    2 * n + 2 ≤ o ∧ (0 < n → 2 * n + 2 ≤ bytes.length) := by
  induction h with
  | start => omega
  | next _ hs ih =>
    obtain ⟨-, ⟨-, -, hlength⟩, -⟩ := hs
    omega

/-- The four bytes that a marker comes with, taken off the rest. -/
theorem MarkerAt.drop_eq {marker : UInt8} (h : MarkerAt bytes o marker) :
    ∃ high low rest, bytes.drop o = 0xFF :: marker :: high :: low :: rest ∧
      wordAt bytes (o + 2) = bigEndian [high, low] := by
  obtain ⟨hstart, hmarker, hlength⟩ := h
  obtain ⟨h0, hstart⟩ := List.getElem?_eq_some_iff.mp hstart
  obtain ⟨h1, hmarker⟩ := List.getElem?_eq_some_iff.mp hmarker
  have h2 : o + 2 < bytes.length := by omega
  have h3 : o + 3 < bytes.length := by omega
  have hrest : bytes.drop (o + 2) = bytes[o + 2] :: bytes[o + 3] :: bytes.drop (o + 4) := by
    rw [List.drop_eq_getElem_cons h2, List.drop_eq_getElem_cons h3]
  refine ⟨bytes[o + 2], bytes[o + 3], bytes.drop (o + 4), ?_, ?_⟩
  · rw [List.drop_eq_getElem_cons h0, List.drop_eq_getElem_cons h1, hrest, hstart, hmarker]
  · rw [wordAt, hrest]
    rfl

/-- A scan goes past the segment at an offset. -/
theorem SegmentAt.scan_eq (h : SegmentAt bytes o) :
    scanSegments (bytes.drop o) =
      scanSegments (bytes.drop (o + 2 + wordAt bytes (o + 2))) := by
  obtain ⟨marker, hm, hnoFrame⟩ := h
  obtain ⟨high, low, rest, hdrop, hword⟩ := hm.drop_eq
  have hbehind : bytes.drop (o + 2) = high :: low :: rest := by
    rw [← List.drop_drop, hdrop]
    rfl
  rw [hdrop, scanSegments, ← List.drop_drop, hbehind, hword]
  simp only [bne_self_eq_false, Bool.false_eq_true, if_false, hnoFrame]

/-- A scan ends at the frame that it comes to. -/
theorem FrameAt.scan_eq (h : FrameAt bytes o) :
    scanSegments (bytes.drop o) = frameAt (bytes.drop o) := by
  obtain ⟨marker, hm, hframe⟩ := h
  obtain ⟨high, low, rest, hdrop, -⟩ := hm.drop_eq
  rw [hdrop, scanSegments]
  simp only [bne_self_eq_false, Bool.false_eq_true, if_false, hframe, if_true]

/-- Where neither a segment nor a frame begins although there are four bytes, the first one is not
`FF`. -/
theorem exists_other_start (hlength : o + 4 ≤ bytes.length) (hs : ¬SegmentAt bytes o)
    (hf : ¬FrameAt bytes o) : ∃ b, bytes[o]? = some b ∧ b ≠ 0xFF := by
  have h0 : o < bytes.length := by omega
  have h1 : o + 1 < bytes.length := by omega
  refine ⟨bytes[o], List.getElem?_eq_getElem h0, fun hstart => ?_⟩
  have hm : MarkerAt bytes o bytes[o + 1] :=
    ⟨by rw [List.getElem?_eq_getElem h0, hstart], List.getElem?_eq_getElem h1, hlength⟩
  cases hframe : isFrameMarker bytes[o + 1] with
  | false => exact hs ⟨_, hm, hframe⟩
  | true => exact hf ⟨_, hm, hframe⟩

/-- Where neither a segment nor a frame begins, a scan ends with nothing. -/
theorem scanSegments_eq_noFrame (hs : ¬SegmentAt bytes o) (hf : ¬FrameAt bytes o) :
    scanSegments (bytes.drop o) = .noFrame := by
  rw [scanSegments.eq_def]
  split
  · next start marker high low rest heq =>
    have hlength : o + 4 ≤ bytes.length := by
      have := congrArg List.length heq
      simp only [List.length_drop, List.length_cons] at this
      omega
    obtain ⟨b, hb, hne⟩ := exists_other_start hlength hs hf
    have hstart : bytes[o]? = some start := by
      rw [← List.head?_drop, heq, List.head?_cons]
    obtain rfl := Option.some.inj (hb.symm.trans hstart)
    rw [if_pos (by simpa using hne)]
  · rfl

/-- The scan of a file goes on where it stands. -/
theorem Reached.scan_eq (h : Reached bytes n o) :
    scanJpeg bytes = scanSegments (bytes.drop o) := by
  induction h with
  | start => rfl
  | next _ hs ih => rw [ih, hs.scan_eq]

end

/-- A scan ends: there is a last segment. -/
theorem Reached.exists_end {bytes : List UInt8} {n o : Nat} (h : Reached bytes n o) :
    ∃ n' o', Reached bytes n' o' ∧ ¬SegmentAt bytes o' := by
  by_cases hs : SegmentAt bytes o
  · exact (h.next hs).exists_end
  · exact ⟨n, o, h, hs⟩
termination_by bytes.length - n
decreasing_by
  have hbounds := (h.next hs).bounds
  omega

theorem frameAt_eq_frame_iff {segment : List UInt8} {d : Dimensions} :
    frameAt segment = .frame d ↔ 9 ≤ segment.length ∧
      d = ⟨wordAt segment 7, wordAt segment 5⟩ := by
  unfold frameAt wordAt
  split
  · next h => simp [Nat.not_le.mpr h]
  · next h => simp [Nat.not_lt.mp h, eq_comm]

/-- **The dimensions are those of the frame that the segments lead to.** -/
theorem scanJpeg_eq_frame_iff {bytes : List UInt8} {d : Dimensions} :
    scanJpeg bytes = .frame d ↔ ∃ n o, Reached bytes n o ∧ FrameAt bytes o ∧
      o + 9 ≤ bytes.length ∧ d = ⟨wordAt bytes (o + 7), wordAt bytes (o + 5)⟩ := by
  have hdrop : ∀ o, frameAt (bytes.drop o) = .frame d ↔ 9 ≤ bytes.length - o ∧
      d = ⟨wordAt bytes (o + 7), wordAt bytes (o + 5)⟩ := by
    intro o
    rw [frameAt_eq_frame_iff, List.length_drop, wordAt, wordAt, List.drop_drop, List.drop_drop]
    rfl
  constructor
  · intro h
    obtain ⟨n, o, hreached, hend⟩ := (@Reached.start bytes).exists_end
    rw [hreached.scan_eq] at h
    by_cases hf : FrameAt bytes o
    · rw [hf.scan_eq, hdrop] at h
      exact ⟨n, o, hreached, hf, by omega, h.2⟩
    · rw [scanSegments_eq_noFrame hend hf] at h
      cases h
  · rintro ⟨n, o, hreached, hf, hlength, hd⟩
    rw [hreached.scan_eq, hf.scan_eq, hdrop]
    exact ⟨by omega, hd⟩

/-! ## Checked reads -/

/-- Why bytes cannot be read at an offset. -/
inductive ReadError where
  /-- There is no byte at the offset. -/
  | outside (offset : Nat)
  /-- There are not all bytes of the numbers that begin at the offset. -/
  | cutOff (offset : Nat)

/-- The byte at an offset. -/
def readByte (bytes : List UInt8) (o : Nat) : Except ReadError UInt8 :=
  match bytes[o]? with
  | some b => .ok b
  | none => .error (.outside o)

/-- Numbers of 16 bits, one after another from an offset on. -/
def readWords (bytes : List UInt8) (count o : Nat) : Except ReadError (List Nat) :=
  if o + 2 * count ≤ bytes.length then
    .ok ((List.range count).map fun k => wordAt bytes (o + 2 * k))
  else .error (.cutOff o)

/-- The scan by offsets, with every read checked. -/
def checkedScan (bytes : List UInt8) (o : Nat) : Except ReadError (Option Dimensions) :=
  if _h : o + 4 ≤ bytes.length then do
    let start ← readByte bytes o
    if start != 0xFF then .ok none
    else
      let marker ← readByte bytes (o + 1)
      if isFrameMarker marker then
        let numbers ← readWords bytes 2 (o + 5)
        .ok (some ⟨numbers[1]?.getD 0, numbers[0]?.getD 0⟩)
      else
        let numbers ← readWords bytes 1 (o + 2)
        checkedScan bytes (o + 2 + numbers[0]?.getD 0)
  else .ok none
termination_by bytes.length - o

/-- What a scan of a file of some size comes to when its reads are checked. -/
def Scan.checked (size : Nat) : Scan → Except ReadError (Option Dimensions)
  | .frame d => .ok (some d)
  | .noFrame => .ok none
  | .cutOff left => .error (.cutOff (size - left + 5))

section
variable {bytes : List UInt8} {o : Nat}

theorem MarkerAt.readByte_eq {marker : UInt8} (h : MarkerAt bytes o marker) :
    readByte bytes o = .ok 0xFF ∧ readByte bytes (o + 1) = .ok marker := by
  obtain ⟨hstart, hmarker, -⟩ := h
  rw [readByte, readByte, hstart, hmarker]
  exact ⟨rfl, rfl⟩

theorem checkedScan_segment (h : SegmentAt bytes o) :
    checkedScan bytes o = checkedScan bytes (o + 2 + wordAt bytes (o + 2)) := by
  obtain ⟨marker, hm, hnoFrame⟩ := h
  obtain ⟨hstart, hmarker⟩ := hm.readByte_eq
  have hlength : readWords bytes 1 (o + 2) = .ok [wordAt bytes (o + 2)] := by
    rw [readWords, if_pos hm.2.2]
    rfl
  rw [checkedScan, dif_pos hm.2.2, hstart, hmarker, hlength]
  simp only [bind, Except.bind, bne_self_eq_false, Bool.false_eq_true, if_false, hnoFrame]
  rfl

theorem checkedScan_frame (h : FrameAt bytes o) :
    checkedScan bytes o = (frameAt (bytes.drop o)).checked bytes.length := by
  obtain ⟨marker, hm, hframe⟩ := h
  obtain ⟨hstart, hmarker⟩ := hm.readByte_eq
  have hlength := hm.2.2
  rw [checkedScan, dif_pos hlength, hstart, hmarker, frameAt, List.length_drop, readWords]
  simp only [bind, Except.bind, bne_self_eq_false, Bool.false_eq_true, if_false, hframe, if_true]
  by_cases hcut : bytes.length - o < 9
  · have hoffset : bytes.length - (bytes.length - o) + 5 = o + 5 := by omega
    rw [if_pos hcut, if_neg (by omega), Scan.checked, hoffset]
  · rw [if_neg hcut, if_pos (by omega), List.drop_drop, List.drop_drop]
    rfl

theorem checkedScan_eq_none (hs : ¬SegmentAt bytes o) (hf : ¬FrameAt bytes o) :
    checkedScan bytes o = .ok none := by
  rw [checkedScan]
  split
  · next hlength =>
    obtain ⟨b, hb, hne⟩ := exists_other_start hlength hs hf
    rw [readByte, hb]
    simp only [bind, Except.bind, bne_iff_ne.mpr hne, if_true]
  · rfl

end

/-- The checked scan comes to what the scan of the bytes from its offset on comes to. -/
theorem checkedScan_eq (bytes : List UInt8) (o : Nat) :
    checkedScan bytes o = (scanSegments (bytes.drop o)).checked bytes.length := by
  by_cases hs : SegmentAt bytes o
  · rw [checkedScan_segment hs, checkedScan_eq, hs.scan_eq]
  · by_cases hf : FrameAt bytes o
    · rw [checkedScan_frame hf, hf.scan_eq]
    · rw [checkedScan_eq_none hs hf, scanSegments_eq_noFrame hs hf, Scan.checked]
termination_by bytes.length - o
decreasing_by
  obtain ⟨-, ⟨-, -, hlength⟩, -⟩ := hs
  omega

/-- The only read that fails is the one of the numbers of a frame that is cut off. -/
theorem exists_frame_of_checkedScan_error {bytes : List UInt8} {e : ReadError}
    (h : checkedScan bytes 2 = .error e) :
    ∃ n o, Reached bytes n o ∧ FrameAt bytes o ∧ bytes.length < o + 9 ∧ e = .cutOff (o + 5) := by
  obtain ⟨n, o, hreached, hend⟩ := (@Reached.start bytes).exists_end
  rw [checkedScan_eq, ← scanJpeg, hreached.scan_eq, ← checkedScan_eq] at h
  by_cases hf : FrameAt bytes o
  · refine ⟨n, o, hreached, hf, ?_⟩
    obtain ⟨-, ⟨-, -, hlength⟩, -⟩ := id hf
    rw [checkedScan_frame hf, frameAt, List.length_drop] at h
    split at h
    · next hcut =>
      have hoffset : bytes.length - (bytes.length - o) + 5 = o + 5 := by omega
      rw [Scan.checked, hoffset] at h
      exact ⟨by omega, (Except.error.inj h).symm⟩
    · cases h
  · rw [checkedScan_eq_none hend hf] at h
    cases h

/-! ## Files -/

section
variable {tree : File.Tree} {p : File.Path} {bytes : List UInt8}
  (hsuffix : lowerSuffix p = ".jpg" ∨ lowerSuffix p = ".jpeg") (hread : tree.read p.text = .ok bytes)
include hsuffix hread

/-- The dimensions of a JPEG file are those that the scan of its bytes finds. -/
theorem dimensions_jpeg : dimensions tree p =
    match scanJpeg bytes with
    | .frame d => ⟨some d, []⟩
    | .noFrame => ⟨none, []⟩
    | .cutOff left => ⟨none, [.dimensionsUnreadable p.text (cutOffReason bytes.length left)]⟩ := by
  unfold dimensions
  simp only [hread]
  rcases hsuffix with hsuffix | hsuffix
  · rw [hsuffix]
    rfl
  · rw [hsuffix]
    rfl

theorem dimensions_value_eq_some_iff {d : Dimensions} :
    (dimensions tree p).value = some d ↔ scanJpeg bytes = .frame d := by
  rw [dimensions_jpeg hsuffix hread]
  cases scanJpeg bytes <;> simp

/-- **The frame of a JPEG file is found, and its scan is safe.**  A file that is written as segments,
a frame and anything behind it has the dimensions of the frame.  Whatever its bytes are, the scan has
a last segment, each segment takes two bytes at least, and it finds dimensions exactly where it
reaches a frame that is there as a whole: the width follows the height.  With every read checked it
comes to the same; the only read that can fail is the one of a frame's numbers, and then there are
no dimensions. -/
theorem jpeg_dimensions_exact :
    (∀ a b (segments : List Segment) (frame : Frame) (trailing : List UInt8),
      bytes = a :: b :: (segments.flatMap Segment.bytes ++ frame.bytes ++ trailing) →
        dimensions tree p = ⟨some frame.dimensions, []⟩) ∧
    (∃ n o, Reached bytes n o ∧ ¬SegmentAt bytes o) ∧
    (∀ n o, Reached bytes n o → 2 * n + 2 ≤ o ∧ (0 < n → 2 * n + 2 ≤ bytes.length)) ∧
    (∀ d, (dimensions tree p).value = some d ↔ ∃ n o, Reached bytes n o ∧ FrameAt bytes o ∧
      o + 9 ≤ bytes.length ∧ d = ⟨wordAt bytes (o + 7), wordAt bytes (o + 5)⟩) ∧
    (∀ found, checkedScan bytes 2 = .ok found → dimensions tree p = ⟨found, []⟩) ∧
    ∀ e, checkedScan bytes 2 = .error e →
      (dimensions tree p).value = none ∧ ∃ n o, Reached bytes n o ∧ FrameAt bytes o ∧
        bytes.length < o + 9 ∧ e = .cutOff (o + 5) := by
  have hscan := dimensions_jpeg hsuffix hread
  refine ⟨?_, Reached.start.exists_end, fun n o h => h.bounds, ?_, ?_, ?_⟩
  · rintro a b segments frame trailing rfl
    rw [hscan, scanJpeg_written]
  · intro d
    rw [dimensions_value_eq_some_iff hsuffix hread, scanJpeg_eq_frame_iff]
  · intro found hfound
    rw [checkedScan_eq, ← scanJpeg] at hfound
    rw [hscan]
    cases hjpeg : scanJpeg bytes with
    | frame d | noFrame =>
      rw [hjpeg] at hfound
      cases hfound
      rfl
    | cutOff left =>
      rw [hjpeg] at hfound
      cases hfound
  · intro e he
    refine ⟨?_, exists_frame_of_checkedScan_error he⟩
    rw [checkedScan_eq, ← scanJpeg] at he
    rw [hscan]
    cases hjpeg : scanJpeg bytes with
    | frame d =>
      rw [hjpeg] at he
      cases he
    | noFrame | cutOff => rfl

end

/-! ## A picture behind one segment -/

/-- A segment with three bytes in it. -/
def shortSegment : Segment := ⟨0xE0, [1, 2, 3], rfl, by decide⟩

/-- A frame that is 300 wide and 2 high. -/
def wideFrame : Frame := ⟨0xC2, rfl, 0, 17, 8, 2, 300⟩

/-- The path of a picture in capital letters. -/
def picturePath : File.Path := ⟨"", ["a.JPG"]⟩

/-- A tree with a picture of some bytes in it. -/
def pictureTree (bytes : List UInt8) : File.Tree := ⟨["w"], [(["w", "a.JPG"], bytes)], []⟩

theorem pictureTree_read (bytes : List UInt8) :
    (pictureTree bytes).read picturePath.text = .ok bytes := by
  cbv

/-- The bytes of a picture with one segment, a frame and one more byte. -/
def wideBytes : List UInt8 :=
  0xFF :: 0xD8 :: ([shortSegment].flatMap Segment.bytes ++ wideFrame.bytes ++ [0xFF])

/-- The segment is passed over, and the frame is found. -/
theorem jpeg_dimensions_wide :
    lowerSuffix picturePath = ".jpg" ∧
      (pictureTree wideBytes).read picturePath.text = .ok wideBytes ∧
      dimensions (pictureTree wideBytes) picturePath = ⟨some wideFrame.dimensions, []⟩ ∧
      wideFrame.dimensions = ⟨300, 2⟩ := by
  have hsuffix : lowerSuffix picturePath = ".jpg" := by decide +kernel
  have hread := pictureTree_read wideBytes
  refine ⟨hsuffix, hread, ?_, rfl⟩
  exact (jpeg_dimensions_exact (.inl hsuffix) hread).1 0xFF 0xD8 [shortSegment] wideFrame [0xFF] rfl

end KvMarkup.Image
