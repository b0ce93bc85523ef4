import ContinuousData.Date.Ticker
import ContinuousData.Provider.Run
import ContinuousData.Stream.Splitter

/-! Sessions: runs of a data provider in which its user and its peer act step by step and the clock
moves only when it is told to. All that follows from an action has happened before the next one.
Writes succeed, and the heartbeat comes as soon as it is due. -/
namespace ContinuousData

structure ProviderSession where
  provider : Provider
  moment : Moment
  /-- Bytes of the peer that are not yet complete. -/
  buffer : Bytes := []
  ticker : Ticker
  /-- What has not yet been reported. -/
  effects : List Provider.Effect

namespace ProviderSession

inductive Action where
  | sendData (frame : Frame)
  | sendFrame (frame : Frame)
  | forget
  | advance (time : Duration)
  | close (message : String)
  /-- The peer sends no more. -/
  | endStream
  /-- The peer sends something. -/
  | receive (bytes : Bytes)
  /-- Asks for an address, whereupon the peer replies. -/
  | request (ip : Ipv4) (port : UInt16) (reply : Bytes)
  /-- Waits for an acknowledgement, whereupon the peer replies. -/
  | awaitAcknack (reply : Bytes)
  deriving DecidableEq, Repr

inductive Result where
  | call (outcome : Provider.Outcome)
  /-- The latest acknowledgement, if there was one. -/
  | acknowledged (latest : Option Acknowledgement)
  deriving DecidableEq, Repr

structure Report where
  result : Result
  closed : Bool
  sent : List Frame
  complaints : List String
  lowestSent : Option UInt64
  highestSent : Option UInt64
  frameset : String
  deriving DecidableEq, Repr

def start (config : ProviderConfig) (wall : Timestamp) : Except Error ProviderSession := do
  let (provider, effects) ← Provider.start config 0
  return { provider, moment := ⟨wall, 0⟩, ticker := .after 0 config.heartbeatInterval, effects }

/-- Lets events happen at once. -/
def happen (session : ProviderSession) (events : List Provider.Event) : ProviderSession :=
  let (provider, effects) := session.provider.run (events.map (session.moment, ·))
  { session with provider, effects := session.effects ++ effects }

/-- Ends the reader of a connection that was closed. -/
def settle (session : ProviderSession) : ProviderSession :=
  if session.provider.closed then { session.happen [.readEnded] with buffer := [] } else session

/-- Makes a call and lets it go on as far as it can. -/
def call (session : ProviderSession) (call : Provider.Call) : ProviderSession :=
  let id := session.provider.tasks.length
  let actions := (session.provider.taskFor call).todo.length
  (session.happen (.called call :: List.replicate actions (.resumed id true))).settle

/-- The outcome of the latest call. -/
def outcome (session : ProviderSession) : Provider.Outcome :=
  (session.provider.tasks.getLast?.map (·.outcome)).getD .done

def receive (session : ProviderSession) (bytes : Bytes) : ProviderSession :=
  if session.provider.closed then session
  else
    let (pieces, buffer) :=
      Splitter.feed session.provider.config.maxFrameSize session.buffer bytes
    ({ session with buffer }.happen (pieces.map (.received <| .ofPiece ·))).settle

/-- Moves the clock and lets the heartbeat go on if it is due then. -/
def leap (session : ProviderSession) (time : Duration) : ProviderSession :=
  let now := session.moment.uptime + time
  let moved := { session with moment := { session.moment with uptime := now } }
  if session.provider.closed then moved
  else
    let (beats, ticker) := session.ticker.take now
    let beat := .heartbeatDue :: List.replicate 3 (.heartbeatResumed true)
    ({ moved with ticker }.happen (List.replicate beats beat).flatten).settle

def advance (session : ProviderSession) (time : Duration) : ProviderSession :=
  (Ticker.leaps time).foldl leap session

/-- Another request takes the place of one that has got no response. -/
def supersede (session : ProviderSession) : ProviderSession :=
  if session.provider.closed then session
  else { session with provider := { session.provider with expecting := none } }

/-- The latest acknowledgement that was not yet reported. -/
def latest? (session : ProviderSession) : Option Acknowledgement :=
  (session.effects.filterMap fun
    | .acknowledged acknowledgement => some acknowledgement
    | _ => none).getLast?

def perform (session : ProviderSession) : Action → ProviderSession × Result
  | .sendData frame =>
    let called := session.call (.sendData frame)
    (called, .call called.outcome)
  | .sendFrame frame =>
    let called := session.call (.sendFrame frame)
    (called, .call called.outcome)
  | .forget => (session.happen [.forgotten], .call .done)
  | .advance time => (session.advance time, .call .done)
  | .close message => (session.call (.close message), .call .done)
  | .endStream => (session.happen [.readEnded], .call .done)
  | .receive bytes => (session.receive bytes, .call .done)
  | .request ip port reply =>
    let id := session.provider.tasks.length
    let replied := ((session.call (.request ip port)).receive reply).supersede
    let answered := replied.happen [.resumed id true]
    (answered, .call answered.outcome)
  | .awaitAcknack reply =>
    let replied := { session with effects := [] }.receive reply
    ({ replied with effects := session.effects ++ replied.effects },
      if replied.provider.closed then .call (.failed .connectionClosed)
      else .acknowledged replied.latest?)

def report (session : ProviderSession) (result : Result) : Report :=
  { result
    closed := session.provider.closed
    sent := session.effects.filterMap fun | .wrote frame true => some frame | _ => none
    complaints := session.effects.filterMap fun | .complained text => some text | _ => none
    lowestSent := session.provider.sent.lowest
    highestSent := session.provider.sent.highest
    frameset := session.provider.endpoint.frameset }

/-- Takes an action and reports on it. There is no report while a frame of the peer is
incomplete. -/
def take (session : ProviderSession) (action : Action) : ProviderSession × Option Report :=
  let (next, result) := session.perform action
  if next.buffer = [] then ({ next with effects := [] }, some (next.report result))
  else (next, none)

end ProviderSession

end ContinuousData
