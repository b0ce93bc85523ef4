import ContinuousData.Frame.Basic
import ContinuousData.Gap.Tracker

/-! Endpoints: the identity under which one side of a connection sends frames. It is fixed, but for
the frame set that is acknowledged, which names the peer as soon as its frames do. -/
namespace ContinuousData

structure EndpointSettings where
  authKeyId : Int32 := 0
  creator : String := "TEST"
  destination : String := "0"
  major : Int16 := 1
  minor : Int16 := 1
  responderName : String := "DC"
  responderType : String := "IDC"
  service : Service := .tcp
  /-- By default, the creator and the destination with a colon between them. -/
  frameset : Option String := none
  deriving DecidableEq, Repr

structure Endpoint where
  authKeyId : Int32
  creator : String
  destination : String
  major : Int16
  minor : Int16
  responderName : String
  responderType : String
  service : Service
  frameset : String
  deriving DecidableEq, Repr

namespace Endpoint

def checkFrameset (frameset : String) : Except Error Unit :=
  if Acknowledgement.framesetWidth < Text.size frameset then
    throw (.framesetTooLong frameset Acknowledgement.framesetWidth)
  else return

def ofSettings (settings : EndpointSettings) : Except Error Endpoint := do
  if Header.creatorWidth < Text.size settings.creator then
    throw (.creatorTooLong settings.creator Header.creatorWidth)
  if Header.destinationWidth < Text.size settings.destination then
    throw (.destinationTooLong settings.destination Header.destinationWidth)
  if Handshake.nameWidth < Text.size settings.responderName then
    throw (.responderNameTooLong settings.responderName Handshake.nameWidth)
  if Handshake.typeWidth < Text.size settings.responderType then
    throw (.responderTypeTooLong settings.responderType Handshake.typeWidth)
  if settings.major < 0 ∨ settings.minor < 0 then throw .endpointVersionNegative
  let frameset := settings.frameset.getD (settings.creator ++ ":" ++ settings.destination)
  checkFrameset frameset
  return { authKeyId := settings.authKeyId, creator := settings.creator
           destination := settings.destination, major := settings.major, minor := settings.minor
           responderName := settings.responderName, responderType := settings.responderType
           service := settings.service, frameset }

def setFrameset (endpoint : Endpoint) (frameset : String) : Except Error Endpoint := do
  checkFrameset frameset
  return { endpoint with frameset }

/-- Takes over the frame set, or stays as it is where the text is too long. -/
def adoptFrameset (endpoint : Endpoint) (frameset : String) : Endpoint :=
  match endpoint.setFrameset frameset with
  | .ok endpoint => endpoint
  | .error _ => endpoint

def frame (endpoint : Endpoint) (sequence : UInt64) (body : Body) : Except Error Frame :=
  Frame.compose endpoint.creator endpoint.destination sequence 0 body endpoint.authKeyId []

/-- Frames outside of the data stream all have the number zero. -/
def controlFrame (endpoint : Endpoint) (body : Body) : Except Error Frame :=
  endpoint.frame 0 body

def acknack (endpoint : Endpoint) (frameset : String) (lowest highest : UInt64)
    (gaps : List (UInt64 × UInt64)) : Except Error Frame :=
  endpoint.controlFrame (.acknack { frameset, lowest, highest, gaps })

/-- An acknowledgement of what has been received of the current frame set. -/
def acknackOf (endpoint : Endpoint) (tracker : Tracker) : Except Error Frame :=
  let snapshot := tracker.snapshot
  endpoint.acknack endpoint.frameset snapshot.lowest snapshot.highest snapshot.gaps

def alert (endpoint : Endpoint) (message : String) : Except Error Frame := do
  Alert.check message
  endpoint.controlFrame (.alert message)

def handshake (endpoint : Endpoint) (ip : Ipv4) (port : UInt16)
    (secondary : Option (Ipv4 × UInt16)) : Handshake :=
  { major := endpoint.major, minor := endpoint.minor, name := endpoint.responderName
    type := endpoint.responderType, service := endpoint.service, ip, port, secondary }

def connectionRequest (endpoint : Endpoint) (ip : Ipv4) (port : UInt16)
    (secondary : Option (Ipv4 × UInt16)) : Except Error Frame :=
  endpoint.controlFrame (.connectionRequest (endpoint.handshake ip port secondary))

def connectionResponse (endpoint : Endpoint) (ip : Ipv4) (port : UInt16)
    (secondary : Option (Ipv4 × UInt16)) : Except Error Frame :=
  endpoint.controlFrame (.connectionResponse (endpoint.handshake ip port secondary))

def optionRequest (endpoint : Endpoint) (setting : OptionSetting) : Except Error Frame := do
  setting.check
  endpoint.controlFrame (.optionRequest setting)

def optionResponse (endpoint : Endpoint) (setting : OptionSetting) : Except Error Frame := do
  setting.check
  endpoint.controlFrame (.optionResponse setting)

def commandRequest (endpoint : Endpoint) (request : CommandRequest) : Except Error Frame :=
  endpoint.controlFrame (.commandRequest request)

def commandResponse (endpoint : Endpoint) (response : CommandResponse) : Except Error Frame :=
  endpoint.controlFrame (.commandResponse response)

def data (endpoint : Endpoint) (subframes : List Subframe) (sequence : UInt64) :
    Except Error Frame := do
  endpoint.frame sequence (.data (← DataFrame.ofSubframes subframes))

def customReset (endpoint : Endpoint) : Except Error Frame :=
  endpoint.controlFrame (.customReset [])

def encapsulation (endpoint : Endpoint) (payload : Bytes) (sequence : UInt64) :
    Except Error Frame :=
  endpoint.frame sequence (.encapsulation payload)

end Endpoint

end ContinuousData
