/-!
# Dimensions of pictures

The width and height of a picture, from the bytes of its file.

* A PNG file has them as 32-bit numbers from byte 16 on.
* A JPEG file is a chain of segments after two bytes: `FF`, a marker and, unless the marker opens a
  frame, the length of what follows it.  A frame (`C0` or `C2`) has height and width as 16-bit
  numbers after five bytes.

All numbers have their highest byte first.
-/

namespace KvMarkup.Image

/-- The number whose bytes are given, the highest first. -/
def bigEndian (bytes : List UInt8) : Nat := bytes.foldl (fun n b => 256 * n + b.toNat) 0

structure Dimensions where
  width : Nat
  height : Nat
deriving DecidableEq

def pngDimensions? (bytes : List UInt8) : Option Dimensions :=
  if bytes.length ≤ 24 then none
  else some ⟨bigEndian ((bytes.drop 16).take 4), bigEndian ((bytes.drop 20).take 4)⟩

def isFrameMarker (marker : UInt8) : Bool := marker == 0xC0 || marker == 0xC2

/-- What a chain of segments leads to. -/
inductive Scan where
  | frame (dimensions : Dimensions)
  | noFrame
  /-- A frame that is cut off, with the number of bytes that are left from its beginning on. -/
  | cutOff (left : Nat)
deriving DecidableEq

def frameAt (segment : List UInt8) : Scan :=
  if segment.length < 9 then .cutOff segment.length
  else .frame ⟨bigEndian ((segment.drop 7).take 2), bigEndian ((segment.drop 5).take 2)⟩

def scanSegments (segments : List UInt8) : Scan :=
  match segments with
  | start :: marker :: high :: low :: rest =>
    if start != 0xFF then .noFrame
    else if isFrameMarker marker then frameAt segments
    else scanSegments ((high :: low :: rest).drop (bigEndian [high, low]))
  | _ => .noFrame
termination_by segments.length
decreasing_by
  simp only [List.length_drop, List.length_cons]
  omega

/-- What the segments of a JPEG file lead to. -/
def scanJpeg (bytes : List UInt8) : Scan := scanSegments (bytes.drop 2)

end KvMarkup.Image
