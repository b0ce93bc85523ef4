import ContinuousData.Manager.Config
import ContinuousData.Stream.Incoming

/-! The connection manager: it tells the data providers of registered stations where their data is
expected. -/
namespace ContinuousData

structure Manager where
  config : ManagerConfig
  endpoint : Endpoint
  deriving Repr

namespace Manager

def bind (config : ManagerConfig) : Except Error Manager := do
  config.check
  return { config, endpoint := ← Endpoint.ofSettings config.endpoint }

/-- The registration of a station from which data is wanted. -/
def acquired? (manager : Manager) (station : String) : Option Registration :=
  (manager.config.stations.find? (·.station = station)).filter (·.acquired)

/-- The frame with which a provider is sent to the address of its station. -/
def response (manager : Manager) (address : SocketAddress) : Except Error Frame :=
  let ip := match address with
    | .v4 ip _ => ip
    | .v6 _ => .unspecified
  manager.endpoint.connectionResponse ip address.port none

/-- The answer to something that a provider has sent. Only requests of stations from which data is
wanted are answered. -/
def answer (manager : Manager) : Incoming → Except Error (Option Frame)
  | .malformed _ => return none
  | .frame frame =>
    match frame.body with
    | .connectionRequest request =>
      match manager.acquired? request.name with
      | some registration => some <$> manager.response registration.address
      | none => return none
    | _ => return none

/-- What is logged as an error. A frame with a wrong checksum is nevertheless answered. -/
def complaint? : Incoming → Option String
  | .malformed broken => some ("error parsing frame: " ++ broken.text)
  | .frame frame =>
    if frame.hasValidChecksum then none
    else some ("CRC check failed for " ++ frame.type.name ++ " frame")

/-- What becomes of a connection of a provider. -/
structure Visit where
  sent : List Frame := []
  complaints : List String := []
  /-- Why the connection was ended before the provider did so. -/
  failure : Option Error := none
  deriving DecidableEq, Repr

/-- Answers one thing after the other, as long as there is an answer to make. -/
def serve (manager : Manager) : List Incoming → Visit
  | [] => {}
  | incoming :: others =>
    let complaints := (complaint? incoming).toList
    match manager.answer incoming with
    | .error reason => { complaints, failure := some reason }
    | .ok answer =>
      let later := manager.serve others
      { sent := answer.toList ++ later.sent, complaints := complaints ++ later.complaints
        failure := later.failure }

end Manager

end ContinuousData
