import ContinuousData.Decoder
import ContinuousData.Encoder

/-! Frame headers, 36 bytes:

```
 0  frame type (i32), trailer offset (i32)
 8  creator (8 characters), destination (8 characters)
24  sequence number (i64, read as unsigned), series (i32)
```
-/
namespace ContinuousData

structure Header where
  type : FrameType
  /-- Where the trailer starts, counted from the start of the frame. -/
  trailerOffset : Nat
  creator : String
  destination : String
  sequence : UInt64
  series : Int32
  deriving DecidableEq, Repr

namespace Header

def width : Nat := 36
def creatorWidth : Nat := 8
def destinationWidth : Nat := 8

def bodyLength (header : Header) : Nat :=
  header.trailerOffset - width

/-- The two leading fields, which tell where the body ends. -/
def readTypeAndOffset : Decoder (FrameType × Nat) := do
  let code ← Decoder.i32
  match FrameType.ofWire? code with
  | none => throw (.unknownFrameType code)
  | some type =>
    let offset ← Decoder.i32
    if offset < 36 then throw (.trailerInsideHeader offset)
    return (type, offset.toInt.toNat)

theorem offset_of_readTypeAndOffset {input rest : Bytes} {type : FrameType} {offset : Nat}
    (h : readTypeAndOffset input = .ok (type, offset) rest) : width ≤ offset := by
  unfold readTypeAndOffset at h
  cases first : Decoder.i32 input with
  | error _ _ => simp [Decoder.bind_of_error first] at h
  | ok code rest =>
    rw [Decoder.bind_of_ok first] at h
    cases known : FrameType.ofWire? code with
    | none => simp [known] at h
    | some type =>
      simp only [known] at h
      cases second : Decoder.i32 rest with
      | error _ _ => simp [Decoder.bind_of_error second] at h
      | ok value rest =>
        rw [Decoder.bind_of_ok second] at h
        split at h
        · simp [bind, EStateM.bind] at h
        · rename_i large
          injection h with h
          injection h with _ h
          have := Int32.le_iff_toInt_le.mp (Int32.not_lt.mp large)
          have : (36 : Int32).toInt = 36 := rfl
          simp only [width]
          omega

def read : Decoder Header := do
  let (type, trailerOffset) ← readTypeAndOffset
  let creator ← Decoder.text creatorWidth
  let destination ← Decoder.text destinationWidth
  let sequence ← Decoder.u64
  let series ← Decoder.i32
  return { type, trailerOffset, creator, destination, sequence, series }

def write (header : Header) : Except Error Bytes := do
  if header.trailerOffset < width ∨ Encoder.maxLength < header.trailerOffset then
    throw (.trailerOffsetOutOfRange header.trailerOffset)
  let creator ← Encoder.text header.creator creatorWidth
  let destination ← Encoder.text header.destination destinationWidth
  return Encoder.i32 header.type.code ++ Encoder.length header.trailerOffset ++ creator ++
    destination ++ Encoder.u64 header.sequence ++ Encoder.i32 header.series

end Header

end ContinuousData
