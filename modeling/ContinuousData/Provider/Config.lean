import ContinuousData.Duration
import ContinuousData.Endpoint
import ContinuousData.Stream.Splitter

/-! What a data provider can be told. -/
namespace ContinuousData

structure ProviderConfig where
  station : String
  stationType : String := "IMS"
  /-- The responder of these settings is the station. -/
  endpoint : EndpointSettings := {}
  maxFrameSize : Nat := Splitter.defaultLimit
  linger : Option Duration := some (.ofSeconds 3)
  /-- Ask for the option "Station" right after connecting. -/
  sendOptionRequest : Bool := true
  heartbeatInterval : Duration := .ofSeconds 60
  connectMaxWait : Option Duration := some (.ofSeconds 10)
  disposeTimeout : Duration := .ofSeconds 10
  deriving Repr

namespace ProviderConfig

def check (config : ProviderConfig) : Except Error Unit := do
  if Text.isBlankText config.station then throw .blankStation
  if config.heartbeatInterval = 0 then throw .heartbeatZero

def settings (config : ProviderConfig) : EndpointSettings :=
  { config.endpoint with responderName := config.station, responderType := config.stationType }

/-- The silence of acknowledgements after which the connection is given up: two and a half
heartbeats. -/
def patience (config : ProviderConfig) : Duration :=
  config.heartbeatInterval * 5 / 2

end ProviderConfig

end ContinuousData
