import ContinuousData.Gap.State

/-! Trackers: the gap list of a frame set, which is empty until a first number is received. -/
namespace ContinuousData

abbrev Tracker := Option GapList

namespace Tracker

def empty : Tracker := none

def ofState (state : GapState) : Except Error Tracker :=
  return some (← state.toList)

def toState (tracker : Tracker) : Option GapState :=
  tracker.map .ofList

def lowest (tracker : Tracker) : Option UInt64 :=
  tracker.map (·.min)

def highest (tracker : Tracker) : Option UInt64 :=
  tracker.map (·.max)

def gaps (tracker : Tracker) : List (UInt64 × UInt64) :=
  (tracker.map GapList.bounds).getD []

def add (tracker : Tracker) (n : UInt64) (now : Timestamp) : Tracker :=
  match tracker with
  | some list => some (list.add n now)
  | none => some (.single n)

/-- Records a range of received numbers, which may extend the range of the tracker. -/
def addRange (tracker : Tracker) (first last : UInt64) (now : Timestamp) : Except Error Tracker :=
  if last < first then throw (.reversedRange first last)
  else match tracker with
    | some list => some <$> ((list.add first now).add last now).addRange first last now
    | none => some <$> GapList.ofParts first last []

/-- What an acknowledgement reports. -/
structure Snapshot where
  lowest : UInt64
  highest : UInt64
  gaps : List (UInt64 × UInt64)
  deriving DecidableEq, Repr

/-- While nothing has been received this is the whole range without gaps, which asks the sender to
start from scratch. -/
def snapshot (tracker : Tracker) : Snapshot :=
  match tracker with
  | some list => ⟨list.min, list.max, list.closedBounds⟩
  | none => ⟨0, GapList.maxNumber, []⟩

/-- A peer whose highest number is below all that is tracked has started its numbering anew. -/
def isOutdatedBy (tracker : Tracker) (peerHighest : UInt64) : Bool :=
  match tracker with
  | some list => peerHighest < list.min
  | none => false

/-- Forgets what is tracked if the peer has started anew. -/
def forgetIfOutdated (tracker : Tracker) (peerHighest : UInt64) : Tracker :=
  if tracker.isOutdatedBy peerHighest then none else tracker

def expire (tracker : Tracker) (cutoff : Timestamp) : Tracker :=
  tracker.map (·.expire cutoff)

/-- The number of gaps that `expire` gives up on. -/
def countExpired (tracker : Tracker) (cutoff : Timestamp) : Nat :=
  (tracker.map (·.countExpired cutoff)).getD 0

end Tracker

end ContinuousData
