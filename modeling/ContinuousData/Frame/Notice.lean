import ContinuousData.Error
import ContinuousData.Text.Quoted

/-! What is worth reporting about a frame that was read in spite of it. -/
namespace ContinuousData

inductive Severity where
  | warning
  | error
  deriving DecidableEq, Repr

inductive Notice where
  | undecodedEncapsulation
  | trailingBytes (kind : FrameType) (count : Nat)
  | channelStringUnaligned
  | channelStringLength (length : Nat)
  | channelCount (listed : Nat) (announced : Int32)
  | invalidChannelId (id : String)
  | stoppedAtSubframe (index : Nat) (reason : Error)
  | unparsedBytes (count : Nat)
  deriving DecidableEq, Repr

namespace Notice

def severity : Notice → Severity
  | unparsedBytes _ => .error
  | _ => .warning

def message : Notice → String
  | undecodedEncapsulation =>
    "received CD-1 encapsulation frame - its content is not decoded"
  | trailingBytes kind count => kind.name ++ s!" frame body has {count} trailing bytes"
  | channelStringUnaligned => "channel string did not end on a 4 byte boundary"
  | channelStringLength length => s!"channel string length {length} is not a multiple of 10"
  | channelCount listed announced =>
    s!"channel string lists {listed} channels, header announces {announced}"
  | invalidChannelId id => "invalid channel id " ++ Text.quoted id ++ " in channel string"
  | stoppedAtSubframe index reason =>
    s!"stopped parsing DATA frame at channel subframe #{index}: " ++ reason.message
  | unparsedBytes count => s!"{count} bytes of DATA frame body were left unparsed"

end Notice

end ContinuousData
