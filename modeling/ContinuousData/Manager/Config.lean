import ContinuousData.Duration
import ContinuousData.Endpoint
import ContinuousData.Stream.Splitter

/-! What the connection manager can be told: where the data of which station is expected. -/
namespace ContinuousData

structure Registration where
  station : String
  address : SocketAddress
  /-- Requests of stations that are not acquired are not answered. -/
  acquired : Bool
  deriving DecidableEq, Repr

structure ManagerConfig where
  endpoint : EndpointSettings :=
    { responderName := "TEST", authKeyId := 7, major := 2, minor := 0 }
  stations : List Registration := []
  maxFrameSize : Nat := Splitter.defaultLimit
  linger : Option Duration := some (.ofSeconds 3)
  deriving Repr

namespace ManagerConfig

/-- Checks stations one after the other; `seen` are the names of those before. -/
def checkStations (seen : List String) : List Registration → Except Error Unit
  | [] => return
  | registration :: others => do
    if Text.isBlankText registration.station then throw .blankStation
    unless registration.address.isV4 do
      throw (.addressNotV4 registration.address.text registration.station)
    if registration.station ∈ seen then throw (.stationTwice registration.station)
    checkStations (registration.station :: seen) others

def check (config : ManagerConfig) : Except Error Unit :=
  checkStations [] config.stations

end ManagerConfig

end ContinuousData
