import ContinuousData.Gap.List

/-! Gap states: gap lists as they are stored, with times in milliseconds, and the forms of text that
they can have. -/
namespace ContinuousData

structure GapRecord where
  first : UInt64
  last : UInt64
  modifiedMillis : Int64
  deriving DecidableEq, Repr

structure GapState where
  min : UInt64
  max : UInt64
  gaps : List GapRecord
  deriving DecidableEq, Repr

/-- A form of text for gap states. A state may have no text, and most texts are those of no state. -/
structure StateFormat where
  write : GapState → Except Error String
  read? : String → Option GapState

namespace GapRecord

def ofGap (gap : Gap) : GapRecord :=
  ⟨gap.first, gap.last, gap.modified.millis⟩

def toGap (record : GapRecord) : Gap :=
  ⟨record.first, record.last, .ofMillis record.modifiedMillis⟩

end GapRecord

namespace GapState

def ofList (list : GapList) : GapState :=
  ⟨list.min, list.max, list.gaps.map .ofGap⟩

def toList (state : GapState) : Except Error GapList :=
  GapList.ofParts state.min state.max (state.gaps.map GapRecord.toGap)

end GapState

end ContinuousData
