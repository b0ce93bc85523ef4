import ContinuousData.Decoder
import ContinuousData.Encoder

/-! The body of ACKNACK frames:

```
 0  frame set (20 characters)
20  lowest (i64), highest (i64), gap count (i32)
40  first and last number (i64, i64) of each gap
```
-/
namespace ContinuousData

/-- What the sender has received of a frame set: the lowest and the highest sequence number, and
the ranges in between that are missing and asked for again. -/
structure Acknowledgement where
  frameset : String
  lowest : UInt64
  highest : UInt64
  gaps : List (UInt64 × UInt64)
  deriving DecidableEq, Repr

namespace Acknowledgement

def framesetWidth : Nat := 20
def gapWidth : Nat := 16

def readGaps : Nat → Decoder (List (UInt64 × UInt64))
  | 0 => return []
  | count + 1 => do
    let first ← Decoder.u64
    let last ← Decoder.u64
    return (first, last) :: (← readGaps count)

def read : Decoder Acknowledgement := do
  let frameset ← Decoder.text framesetWidth
  let lowest ← Decoder.u64
  let highest ← Decoder.u64
  let count ← Decoder.length "gap count"
  let remaining ← Decoder.remaining
  if remaining < count * gapWidth then throw (.missingGaps count remaining)
  let gaps ← readGaps count
  return { frameset, lowest, highest, gaps }

def write (body : Acknowledgement) : Except Error Bytes := do
  let frameset ← Encoder.text body.frameset framesetWidth
  if Encoder.maxLength < body.gaps.length then throw .countTooLarge
  return frameset ++ Encoder.u64 body.lowest ++ Encoder.u64 body.highest ++
    Encoder.length body.gaps.length ++
    body.gaps.flatMap fun (first, last) => Encoder.u64 first ++ Encoder.u64 last

end Acknowledgement

end ContinuousData
