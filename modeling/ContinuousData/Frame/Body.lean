import ContinuousData.Frame.Acknowledgement
import ContinuousData.Frame.Alert
import ContinuousData.Frame.Command
import ContinuousData.Frame.Data
import ContinuousData.Frame.Handshake
import ContinuousData.Frame.OptionSetting

/-! Frame bodies: what each type of frame carries. -/
namespace ContinuousData

inductive Body where
  | connectionRequest (station : Handshake)
  | connectionResponse (responder : Handshake)
  | optionRequest (setting : OptionSetting)
  | optionResponse (setting : OptionSetting)
  | data (frame : DataFrame)
  | acknack (acknowledgement : Acknowledgement)
  | alert (message : String)
  | commandRequest (request : CommandRequest)
  | commandResponse (response : CommandResponse)
  /-- A frame of the preceding protocol, which is carried as it is. -/
  | encapsulation (payload : Bytes)
  /-- The payload has no meaning and is normally empty. -/
  | customReset (payload : Bytes)
  deriving DecidableEq, Repr

namespace Body

def type : Body → FrameType
  | connectionRequest _ => .connectionRequest
  | connectionResponse _ => .connectionResponse
  | optionRequest _ => .optionRequest
  | optionResponse _ => .optionResponse
  | data _ => .data
  | acknack _ => .acknack
  | alert _ => .alert
  | commandRequest _ => .commandRequest
  | commandResponse _ => .commandResponse
  | encapsulation _ => .encapsulation
  | customReset _ => .customReset

/-- The reader of the bodies of a type, except those of DATA frames, which consume all they get. -/
def reader : FrameType → Decoder Body
  | .connectionRequest => return connectionRequest (← Handshake.read)
  | .connectionResponse => return connectionResponse (← Handshake.read)
  | .optionRequest => return optionRequest (← OptionSetting.read)
  | .optionResponse => return optionResponse (← OptionSetting.read)
  | .acknack => return acknack (← Acknowledgement.read)
  | .alert => return alert (← Alert.read)
  | .commandRequest => return commandRequest (← CommandRequest.read)
  | .commandResponse => return commandResponse (← CommandResponse.read)
  | .encapsulation => return encapsulation (← Decoder.all)
  | .customReset => return customReset (← Decoder.all)
  | .data => throw (.unparseableType .data)
  | .malformed => throw (.unparseableType .malformed)

/-- A body of type `type` that takes up the whole input, with notices of what is odd about it. -/
def read (type : FrameType) (input : Bytes) : Except Error Body × List Notice :=
  match type with
  | .data => ((DataFrame.read input).1.map data, (DataFrame.read input).2)
  | _ =>
    let undecoded := if type = .encapsulation then [.undecodedEncapsulation] else []
    match reader type input with
    | .error reason _ => (.error reason, undecoded)
    | .ok body rest =>
      let trailing := if rest = [] then [] else [.trailingBytes type rest.length]
      (.ok body, undecoded ++ trailing)

def write : Body → Except Error Bytes
  | connectionRequest station => station.write
  | connectionResponse responder => responder.write
  | optionRequest setting => setting.write
  | optionResponse setting => setting.write
  | data frame => frame.write
  | acknack acknowledgement => acknowledgement.write
  | alert message => Alert.write message
  | commandRequest request => request.write
  | commandResponse response => response.write
  | encapsulation payload => return payload
  | customReset payload => return payload

/-- Whether all numbers in it equal themselves. -/
def isComparable : Body → Bool
  | data frame => frame.subframes.all Subframe.isComparable
  | _ => true

end Body

end ContinuousData
