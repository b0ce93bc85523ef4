import ContinuousData.Consumer.Run
import ContinuousData.Date.Ticker
import ContinuousData.Stream.Splitter

/-! Sessions: runs of a consumer in which a data provider acts step by step and the clock moves only
when it is told to. All that follows from an action has happened before the next one. Writes
succeed, and timers fire as soon as they are due. -/
namespace ContinuousData

/-- The timers of a connection. -/
structure ConsumerTimers where
  acknack : Ticker
  contact : Ticker
  store : Ticker
  deriving DecidableEq, Repr

namespace ConsumerTimers

/-- What is done at once when a connection starts takes no timer. -/
def start (config : ConsumerConfig) (now : Duration) : ConsumerTimers :=
  { acknack := .after now config.acknackInterval
    contact := .after now (min (.ofSeconds 1) config.expiryLimit)
    store := .after now config.storeInterval }

end ConsumerTimers

structure ConsumerSession (σ : Type) where
  consumer : Consumer σ
  /-- Whether somebody takes what is published. -/
  hasReceiver : Bool
  moment : Moment
  /-- Bytes of the provider that are not yet complete. -/
  buffer : Bytes := []
  timers : ConsumerTimers
  /-- What has not yet been reported. -/
  effects : List Consumer.Effect := []

namespace ConsumerSession

inductive Action where
  /-- A number counts as received without a provider. -/
  | track (n : UInt64)
  | connect
  | send (bytes : Bytes)
  | advance (time : Duration)
  /-- The provider sends no more. -/
  | endStream
  | shutdown
  deriving DecidableEq, Repr

structure Report where
  state : LinkState
  sent : List Frame
  published : List Frame
  malformed : List PartialFrame
  complaints : List String
  tracker : Tracker
  frameset : String
  deriving DecidableEq, Repr

variable {σ : Type} [GapStore σ]

def start (consumer : Consumer σ) (hasReceiver : Bool) (wall : Timestamp) : ConsumerSession σ :=
  { consumer, hasReceiver, moment := ⟨wall, 0⟩, timers := .start consumer.config 0 }

/-- Lets events happen at once. -/
def happen (session : ConsumerSession σ) (events : List Consumer.Event) : ConsumerSession σ :=
  let (consumer, effects) := session.consumer.run (events.map (session.moment, ·))
  { session with consumer, effects := session.effects ++ effects }

def isConnected (session : ConsumerSession σ) : Bool :=
  session.consumer.state = .connected

/-- The event with which the reader gets done with what it is about. -/
def completion (session : ConsumerSession σ) : List Consumer.Event :=
  match session.consumer.reader with
  | .waiting | .finished => []
  | .publishing frame =>
    [.published (if session.hasReceiver then none
      else some (.publisherGone frame.sequence session.consumer.config.station))]
  | .comparing _ => [.compared]
  | .answering _ => [.answered true]
  | .resetting => [.trackerReset]

def receive (session : ConsumerSession σ) (piece : Piece) : ConsumerSession σ :=
  let received := session.happen [.received (.ofPiece piece)]
  received.happen received.completion

/-- Brings a connection that is to be closed to its end. -/
def settle (session : ConsumerSession σ) : ConsumerSession σ :=
  let ended := if session.consumer.cancelled then session.happen [.readEnded] else session
  if ended.consumer.state = .draining then
    { ended.happen [.acknackEnded, .watchEnded, .keepingEnded, .drained, .farewellWritten true] with
      buffer := [] }
  else ended

/-- A provider that leaves no frame incomplete is heard of, even where it sends nothing. -/
def touch (session : ConsumerSession σ) : ConsumerSession σ :=
  { session with consumer := { session.consumer with lastContact := session.moment.uptime } }

def send (session : ConsumerSession σ) (bytes : Bytes) : ConsumerSession σ :=
  if session.isConnected then
    let (pieces, buffer) :=
      Splitter.feed session.consumer.config.maxFrameSize session.buffer bytes
    let heard := pieces.foldl receive { session with buffer }
    (if buffer = [] then heard.touch else heard).settle
  else session

def connect (session : ConsumerSession σ) : ConsumerSession σ :=
  if session.consumer.isIdle then
    let timers := .start session.consumer.config session.moment.uptime
    { session with timers }.happen [.accepted, .acknackDue, .acknackWritten true]
  else session

/-- Moves the clock and fires the timers that are due then. -/
def leap (session : ConsumerSession σ) (time : Duration) : ConsumerSession σ :=
  let now := session.moment.uptime + time
  let moved := { session with moment := { session.moment with uptime := now } }
  if session.isConnected then
    let (acknacks, acknack) := session.timers.acknack.take now
    let (stores, store) := session.timers.store.take now
    let (isChecked, contact) := session.timers.contact.catchUp now
    let acknowledged : List Consumer.Event := [.acknackDue, .acknackWritten true]
    let stored : List Consumer.Event := [.storeDue, .stateTaken, .stateStored]
    let checked : List Consumer.Event := if isChecked then [.contactDue] else []
    settle ({ moved with timers := { acknack, contact, store } }.happen
      ((List.replicate acknacks acknowledged).flatten ++ (List.replicate stores stored).flatten ++
        checked))
  else moved

def advance (session : ConsumerSession σ) (time : Duration) : ConsumerSession σ :=
  (Ticker.leaps time).foldl leap session

def perform (session : ConsumerSession σ) : Action → ConsumerSession σ
  | .track n =>
    { session with
      consumer := { session.consumer with
        tracker := session.consumer.tracker.add n session.moment.wall } }
  | .connect => session.connect
  | .send bytes => session.send bytes
  | .advance time => session.advance time
  | .endStream => (session.happen [.readEnded]).settle
  | .shutdown => (session.happen [.shutdown]).settle.happen [.stopped]

def isWrite : Consumer.Effect → Bool
  | .wrote _ _ => true
  | _ => false

/-- Reports effects, and keeps those that are to be `kept` for later. -/
def report (session : ConsumerSession σ) (kept : Consumer.Effect → Bool) :
    ConsumerSession σ × Report :=
  let effects := session.effects.filter (!kept ·)
  ({ session with effects := session.effects.filter kept },
    { state := session.consumer.state
      sent := effects.filterMap fun | .wrote frame true => some frame | _ => none
      published := effects.filterMap fun | .published frame none => some frame | _ => none
      malformed := effects.filterMap fun | .reported broken => some broken | _ => none
      complaints := effects.filterMap (·.complaint?)
      tracker := session.consumer.tracker
      frameset := session.consumer.endpoint.frameset })

/-- What is sent while the clock moves is reported later, unless it ends the connection. -/
def keptAfter (session : ConsumerSession σ) : Action → Consumer.Effect → Bool
  | .advance _ => fun effect => session.isConnected && isWrite effect
  | _ => fun _ => false

/-- Takes an action and reports on it. There is no report while a frame of the provider is
incomplete. The clock on the wall hardly moves between two actions. -/
def take (session : ConsumerSession σ) (action : Action) :
    ConsumerSession σ × Option Report :=
  let moment := { session.moment with wall := session.moment.wall + 1 }
  let next := { session with moment }.perform action
  if next.buffer = [] then
    let (reported, report) := next.report (next.keptAfter action)
    (reported, some report)
  else (next, none)

end ConsumerSession

end ContinuousData
