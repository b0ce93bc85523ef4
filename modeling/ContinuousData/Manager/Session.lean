import ContinuousData.Manager.Basic
import ContinuousData.Stream.Splitter

/-! Sessions of a connection manager with a data provider that acts step by step. -/
namespace ContinuousData

structure ManagerSession where
  manager : Manager
  connected : Bool := false
  /-- Bytes of the provider that are not yet complete. -/
  buffer : Bytes := []
  /-- What has not yet been reported. -/
  sent : List Frame := []
  complaints : List String := []

namespace ManagerSession

inductive Action where
  | connect
  | send (bytes : Bytes)
  /-- The provider sends no more. -/
  | endStream
  | shutdown
  deriving DecidableEq, Repr

structure Report where
  connected : Bool
  sent : List Frame
  complaints : List String
  deriving DecidableEq, Repr

def send (session : ManagerSession) (bytes : Bytes) : ManagerSession :=
  let (pieces, buffer) :=
    Splitter.feed session.manager.config.maxFrameSize session.buffer bytes
  let visit := session.manager.serve (pieces.map .ofPiece)
  { session with
    connected := visit.failure.isNone
    buffer := if visit.failure.isNone then buffer else []
    sent := session.sent ++ visit.sent
    complaints := session.complaints ++ visit.complaints }

def perform (session : ManagerSession) : Action → ManagerSession
  | .connect => { session with connected := true, buffer := [] }
  | .send bytes => if session.connected then session.send bytes else session
  | .endStream | .shutdown => { session with connected := false, buffer := [] }

/-- Takes an action and reports on it. There is no report while a frame of the provider is
incomplete. -/
def take (session : ManagerSession) (action : Action) : ManagerSession × Option Report :=
  let next := session.perform action
  if next.buffer = [] then
    ({ next with sent := [], complaints := [] },
      some { connected := next.connected, sent := next.sent, complaints := next.complaints })
  else (next, none)

end ManagerSession

end ContinuousData
