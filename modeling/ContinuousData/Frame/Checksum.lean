import ContinuousData.Bytes

/-! The checksum of frames: a cyclic redundancy check of 64 bits, least significant bit first, with
the generator x^64 + x^4 + x^3 + x + 1 and neither a start value nor a final mask. It covers a whole
frame, whose last eight bytes, the checksum's own place, count as zero. -/
namespace ContinuousData

namespace Checksum

/-- The generator without its leading term, in reversed order of bits. -/
def generator : UInt64 := 0xD800000000000000

def width : Nat := 8

/-- Takes one bit into the remainder. -/
def shift (remainder : UInt64) : UInt64 :=
  if remainder &&& 1 = 1 then (remainder >>> 1) ^^^ generator else remainder >>> 1

def shifts : Nat → UInt64 → UInt64
  | 0, remainder => remainder
  | count + 1, remainder => shifts count (shift remainder)

def absorb (remainder : UInt64) (byte : UInt8) : UInt64 :=
  shifts 8 (remainder ^^^ byte.toUInt64)

/-- The remainder of a byte string. -/
def crc (bytes : Bytes) : UInt64 :=
  bytes.foldl absorb 0

/-- The bytes before the checksum's place. -/
def covered (frame : Bytes) : Bytes :=
  frame.take (frame.length - width)

def compute (frame : Bytes) : UInt64 :=
  crc (covered frame ++ Bytes.zeros (frame.length - (covered frame).length))

/-- The last eight bytes, as a number. -/
def stored (frame : Bytes) : UInt64 :=
  UInt64.ofNat (Bytes.ofBigEndian (frame.drop (frame.length - width)))

def isValid (frame : Bytes) : Bool :=
  width ≤ frame.length && stored frame == compute frame

/-- The frame with its checksum in place; fewer than eight bytes stay as they are. -/
def patch (frame : Bytes) : Bytes :=
  if frame.length < width then frame
  else covered frame ++ Bytes.bigEndian width (compute frame).toNat

end Checksum

end ContinuousData
