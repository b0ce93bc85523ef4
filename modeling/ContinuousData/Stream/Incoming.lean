import ContinuousData.Frame.Basic
import ContinuousData.Stream.Splitter

/-! What one side of a connection gets from the other: frames, and what is left of bytes that form
none. -/
namespace ContinuousData

inductive Incoming where
  | frame (whole : Frame)
  | malformed (broken : PartialFrame)
  deriving DecidableEq, Repr

namespace Incoming

/-- Nothing can be read of a piece that was dropped from the stream. -/
def ofPiece : Piece → Incoming
  | .frame raw =>
    match (Frame.parse raw).1 with
    | .ok whole => .frame whole
    | .error broken => .malformed broken
  | .garbage raw reason => .malformed { header := none, body := none, trailer := none, reason, raw }

def frame? : Incoming → Option Frame
  | frame whole => some whole
  | malformed _ => none

end Incoming

end ContinuousData
