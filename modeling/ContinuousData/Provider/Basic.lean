import ContinuousData.Gap.Tracker
import ContinuousData.Provider.Config
import ContinuousData.Stream.Incoming

/-! The data provider's side of a connection. Calls of its user, the heartbeat and the task that
reads run at the same time. A call is a list of actions, each of which is done in one go, while
anything may happen between two of them. -/
namespace ContinuousData

namespace Provider

inductive Action where
  /-- Counts a number as sent. -/
  | record (n : UInt64)
  /-- Registers for the next CONNECTION_RESPONSE, in place of whoever did so before. -/
  | expect
  /-- Gives up if the connection is closed. -/
  | check
  | write (frame : Frame)
  /-- Waits for the CONNECTION_RESPONSE. -/
  | await
  | fail (reason : Error)
  /-- Leaves it at that if the connection is closed. -/
  | leaveIfClosed
  | sayGoodbye (message : String)
  | close
  | readLowest
  | readHighest (lowest : UInt64)
  | acknowledge (lowest highest : UInt64)
  deriving DecidableEq, Repr

/-- What comes of a call. -/
inductive Outcome where
  | done
  | answered (response : Handshake)
  | failed (reason : Error)
  deriving DecidableEq, Repr

structure Task where
  todo : List Action
  /-- What has come of it once nothing is left to do. -/
  outcome : Outcome := .done
  deriving DecidableEq, Repr

inductive Call where
  | sendData (frame : Frame)
  | sendFrame (frame : Frame)
  /-- Asks for the address where data is expected, and announces the own one. -/
  | request (ip : Ipv4) (port : UInt16)
  | close (message : String)
  deriving DecidableEq, Repr

inductive Effect where
  | wrote (frame : Frame) (written : Bool)
  | complained (text : String)
  | acknowledged (acknowledgement : Acknowledgement)
  deriving DecidableEq, Repr

end Provider

structure Provider where
  config : ProviderConfig
  endpoint : Endpoint
  /-- Numbers of the DATA frames sent on this connection. -/
  sent : Tracker := .empty
  closed : Bool := false
  /-- Whether the task that reads is still there. -/
  reading : Bool := true
  heartbeat : Provider.Task := { todo := [] }
  heartbeatEnded : Bool := false
  /-- All calls so far; the position of a call identifies it. -/
  tasks : List Provider.Task := []
  /-- The call to which the next CONNECTION_RESPONSE goes. -/
  expecting : Option Nat := none
  /-- Calls with the CONNECTION_RESPONSE that each of them got. -/
  responses : List (Nat × Handshake) := []
  /-- When the peer last acknowledged, in uptime. -/
  lastAcknack : Duration := 0
  deriving Repr

namespace Provider

def heartbeatFrameset : String := "None"
def timeoutMessage : String := "Acknack heartbeat exceeded timeout threshold"

/-- The option that is asked for when a connection starts. -/
def firstOption : OptionSetting := ⟨1, "Station"⟩

/-- A provider that has just connected. -/
def start (config : ProviderConfig) (uptime : Duration) :
    Except Error (Provider × List Effect) := do
  config.check
  let endpoint ← Endpoint.ofSettings config.settings
  let provider : Provider := { config, endpoint, lastAcknack := uptime }
  if config.sendOptionRequest then
    let frame ← endpoint.optionRequest firstOption
    return (provider, [.wrote frame true])
  else return (provider, [])

/-- The actions that close a connection. -/
def closing (message : String) : List Action :=
  [.leaveIfClosed, .sayGoodbye message, .close]

/-- What is to be done for a call. -/
def taskFor (provider : Provider) : Call → Task
  | .sendData frame =>
    if frame.type = .data then { todo := [.record frame.sequence, .check, .write frame] }
    else { todo := [], outcome := .failed (.notData frame.type) }
  | .sendFrame frame => { todo := [.check, .write frame] }
  | .request ip port =>
    match provider.endpoint.connectionRequest ip port none with
    | .ok frame => { todo := [.expect, .check, .write frame, .await] }
    | .error reason => { todo := [.expect, .fail reason] }
  | .close message => { todo := closing message }

end Provider

end ContinuousData
