import ContinuousData.Date.Timestamp
import ContinuousData.Error

/-! Gap lists: the range of sequence numbers seen so far, and the parts of it that are missing.
Gaps are in ascending order, and at least one received number lies between two of them. Numbers are
unsigned, up to 2^64 - 1. -/
namespace ContinuousData

/-- A range of missing numbers, with the time when one of its bounds last changed. -/
structure Gap where
  first : UInt64
  last : UInt64
  modified : Timestamp
  deriving DecidableEq, Repr

structure GapList where
  min : UInt64
  max : UInt64
  gaps : List Gap
  deriving DecidableEq, Repr

namespace Gap

def contains (gap : Gap) (n : UInt64) : Bool :=
  gap.first ≤ n && n ≤ gap.last

def bounds (gap : Gap) : UInt64 × UInt64 :=
  (gap.first, gap.last)

/-- What is left of a gap without the number `n`: at most two gaps, with new times. -/
def without (gap : Gap) (n : UInt64) (now : Timestamp) : List Gap :=
  if gap.first = gap.last then []
  else if n = gap.first then [⟨gap.first + 1, gap.last, now⟩]
  else if n = gap.last then [⟨gap.first, gap.last - 1, now⟩]
  else [⟨gap.first, n - 1, now⟩, ⟨n + 1, gap.last, now⟩]

/-- What is left of a gap without the range from `first` to `last`. -/
def withoutRange (gap : Gap) (first last : UInt64) (now : Timestamp) : List Gap :=
  if gap.last < first ∨ last < gap.first then [gap]
  else
    (if gap.first < first then [⟨gap.first, first - 1, now⟩] else []) ++
      (if last < gap.last then [⟨last + 1, gap.last, now⟩] else [])

end Gap

namespace GapList

/-- The greatest sequence number. -/
def maxNumber : UInt64 := 0xFFFFFFFFFFFFFFFF

/-- A range of which nothing has been received. -/
def missing (min max : UInt64) (now : Timestamp) : Except Error GapList :=
  if max < min then throw (.emptyRange min max)
  else return ⟨min, max, [⟨min, max, now⟩]⟩

/-- The range of a single received number. -/
def single (n : UInt64) : GapList :=
  ⟨n, n, []⟩

/-- Checks that ordered gaps are ranges within bounds, with received numbers between them.
`previous` is the last number of the gap before. -/
def checkGaps (min max : UInt64) : (previous : Option UInt64) → List Gap → Except Error Unit
  | _, [] => return
  | previous, gap :: gaps => do
    if gap.last < gap.first ∨ gap.first < min ∨ max < gap.last then
      throw (.gapOutside gap.first gap.last min max)
    if let some last := previous then
      if last = maxNumber ∨ gap.first ≤ last + 1 then throw (.gapsTouch gap.first)
    checkGaps min max (some gap.last) gaps

/-- A gap list of parts in any order. -/
def ofParts (min max : UInt64) (gaps : List Gap) : Except Error GapList := do
  if max < min then throw (.emptyRange min max)
  let gaps := gaps.mergeSort fun a b => a.first ≤ b.first
  checkGaps min max none gaps
  return ⟨min, max, gaps⟩

def bounds (list : GapList) : List (UInt64 × UInt64) :=
  list.gaps.map Gap.bounds

/-- The gaps that do not reach up to the greatest number, as the end of an open range does. -/
def closedBounds (list : GapList) : List (UInt64 × UInt64) :=
  (list.gaps.filter (·.last ≠ maxNumber)).map Gap.bounds

/-- The gap that contains `n` is replaced by what is left of it. -/
def removeFrom (n : UInt64) (now : Timestamp) : List Gap → List Gap
  | [] => []
  | gap :: gaps =>
    if gap.contains n then gap.without n now ++ gaps else gap :: removeFrom n now gaps

/-- Records a received number. A number outside of the range extends it, and what lies between
becomes a gap. -/
def add (list : GapList) (n : UInt64) (now : Timestamp) : GapList :=
  if n < list.min then
    { list with
      min := n
      gaps := if n + 1 < list.min then ⟨n + 1, list.min - 1, now⟩ :: list.gaps else list.gaps }
  else if list.max < n then
    { list with
      max := n
      gaps := if list.max + 1 < n then list.gaps ++ [⟨list.max + 1, n - 1, now⟩] else list.gaps }
  else { list with gaps := removeFrom n now list.gaps }

/-- Records a range of received numbers, which must lie within the range of the list. -/
def addRange (list : GapList) (first last : UInt64) (now : Timestamp) : Except Error GapList :=
  if last < first then throw (.reversedRange first last)
  else if first < list.min ∨ list.max < last then
    throw (.rangeOutside first last list.min list.max)
  else return { list with gaps := list.gaps.flatMap (·.withoutRange first last now) }

/-- Gives up on gaps that have not changed since `cutoff`. -/
def expire (list : GapList) (cutoff : Timestamp) : GapList :=
  { list with gaps := list.gaps.filter (cutoff ≤ ·.modified) }

/-- The number of gaps that `expire` gives up on. -/
def countExpired (list : GapList) (cutoff : Timestamp) : Nat :=
  list.gaps.countP (·.modified < cutoff)

end GapList

end ContinuousData
