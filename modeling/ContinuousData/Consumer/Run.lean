import ContinuousData.Consumer.Basic
import ContinuousData.Date.Moment
import ContinuousData.Machine

/-! Runs of a data consumer. The steps of its tasks follow one another in any order: what happens
next, and whether a write or a publication succeeds, is given by a list of events. An event that
cannot happen in a state leaves it as it is. -/
namespace ContinuousData

namespace Consumer

inductive Event where
  /-- A data provider has connected. -/
  | accepted
  | received (incoming : Incoming)
  /-- There is nothing more to read: the stream has ended or failed, or is no longer wanted. -/
  | readEnded
  | published (failure : Option Error)
  | publicationAbandoned
  | compared
  | answered (written : Bool)
  | trackerReset
  | acknackDue
  | acknackWritten (written : Bool)
  | acknackEnded
  | contactDue
  | watchEnded
  | storeDue
  | stateTaken
  | stateStored
  | keepingEnded
  /-- All tasks have come to their ends. -/
  | drained
  | farewellWritten (written : Bool)
  | shutdown
  | stopped
  deriving DecidableEq, Repr

/-- The last words on a connection. -/
def farewellMessage : String := "Shutting down connection"

variable {σ : Type} [GapStore σ]

/-- Starts the tasks of a connection. -/
def accept (consumer : Consumer σ) (moment : Moment) : Consumer σ × List Effect :=
  ({ consumer with
     state := .connected, reader := .waiting, acknack := .waiting, watching := true
     keeper := .waiting, cancelled := consumer.stopping, lastContact := moment.uptime
     farewell := none },
    [.entered .connecting, .entered .connected])

/-- Nothing more is read from the provider. -/
def drain (consumer : Consumer σ) : Consumer σ × List Effect :=
  ({ consumer with state := .draining, reader := .finished, cancelled := true },
    [.entered .draining])

/-- Starts to do what a frame asks for. The checksum plays no part in it. Numbers of DATA frames
count as received before the frame is published, and those of COMMAND_RESPONSE frames are counted
as well. What a data provider has no business to send is passed over. -/
def handleFrame (consumer : Consumer σ) (moment : Moment) (frame : Frame) :
    Consumer σ × List Effect :=
  match frame.body with
  | .data _ =>
    ({ consumer with
       tracker := consumer.tracker.add frame.sequence moment.wall, reader := .publishing frame }, [])
  | .acknack acknowledgement =>
    ({ consumer with
       endpoint := consumer.endpoint.adoptFrameset acknowledgement.frameset
       reader := .comparing acknowledgement.highest }, [])
  | .commandResponse _ =>
    ({ consumer with tracker := consumer.tracker.add frame.sequence moment.wall }, [])
  | .optionRequest setting =>
    match consumer.endpoint.optionResponse setting with
    | .ok response => ({ consumer with reader := .answering response }, [])
    | .error _ => (consumer, [])
  | .alert _ => consumer.drain
  | .customReset _ =>
    if consumer.config.resetEnabled then
      let (outcome, store) := GapStore.remove consumer.store consumer.config.station
      ({ consumer with store, reader := .resetting }, [.removed (failure? outcome)])
    else (consumer, [])
  | .connectionRequest _ | .connectionResponse _ | .optionResponse _ | .commandRequest _
  | .encapsulation _ => (consumer, [])

def handle (consumer : Consumer σ) (moment : Moment) : Incoming → Consumer σ × List Effect
  | .frame frame => consumer.handleFrame moment frame
  | .malformed broken => (consumer, [.reported broken])

def receive (consumer : Consumer σ) (moment : Moment) (incoming : Incoming) :
    Consumer σ × List Effect :=
  let (next, effects) := { consumer with lastContact := moment.uptime }.handle moment incoming
  (next, .handled incoming :: effects)

/-- Starts to write an acknowledgement. The connection ends where none can be made. -/
def acknowledge (consumer : Consumer σ) : Consumer σ :=
  match consumer.endpoint.acknackOf consumer.tracker with
  | .ok frame => { consumer with acknack := .writing frame }
  | .error _ => { consumer with acknack := .finished, cancelled := true }

/-- Ends the connection if the provider has been silent for too long. -/
def checkContact (consumer : Consumer σ) (moment : Moment) : Consumer σ :=
  if consumer.config.expiryLimit < moment.uptime - consumer.lastContact then
    { consumer with watching := false, cancelled := true }
  else consumer

/-- Gives up gaps that have not changed for long. -/
def expire (consumer : Consumer σ) (moment : Moment) : Consumer σ :=
  match consumer.config.gapExpiration with
  | some age => { consumer with tracker := consumer.tracker.expire (moment.wall - (age : Nat)) }
  | none => consumer

def closeLink (consumer : Consumer σ) : Consumer σ × List Effect :=
  ({ consumer with state := .closed, farewell := none }, [.entered .closed])

/-- Stores the gap state and starts to say goodbye. -/
def finish (consumer : Consumer σ) : Consumer σ × List Effect :=
  let (saved, effects) := consumer.persist
  match saved.endpoint.alert farewellMessage with
  | .ok alert => ({ saved with farewell := some alert }, effects)
  | .error reason =>
    let (closed, others) := saved.closeLink
    (closed, effects ++ .alertFailed reason :: others)

/-- No provider is connected. -/
def isIdle (consumer : Consumer σ) : Bool :=
  consumer.state = .disconnected || consumer.state = .closed

/-- All tasks of a connection have come to their ends, and nothing else has been done since. -/
def isDrained (consumer : Consumer σ) : Bool :=
  consumer.state = .draining && consumer.acknack = .finished && !consumer.watching &&
    consumer.keeper = .finished && consumer.farewell.isNone

/-- The steps of the task that reads. -/
def stepReader (consumer : Consumer σ) (moment : Moment) (event : Event) :
    Consumer σ × List Effect :=
  match event, consumer.reader with
  | .received incoming, .waiting => consumer.receive moment incoming
  | .readEnded, .waiting => consumer.drain
  | .published failure, .publishing frame =>
    ({ consumer with reader := .waiting }, [.published frame failure])
  | .publicationAbandoned, .publishing frame =>
    if consumer.cancelled then ({ consumer with reader := .waiting }, [.unpublished frame])
    else (consumer, [])
  | .compared, .comparing peerHighest =>
    ({ consumer with
       tracker := consumer.tracker.forgetIfOutdated peerHighest, reader := .waiting }, [])
  | .answered written, .answering response =>
    let (next, effects) :=
      if written then ({ consumer with reader := .waiting }, []) else consumer.drain
    (next, .wrote response written :: effects)
  | .trackerReset, .resetting => { consumer with tracker := .empty }.drain
  | _, _ => (consumer, [])

/-- The steps of the task that acknowledges. -/
def stepAcknack (consumer : Consumer σ) (event : Event) : Consumer σ × List Effect :=
  match event, consumer.acknack with
  | .acknackDue, .waiting => (consumer.acknowledge, [])
  | .acknackWritten written, .writing frame =>
    (if written then { consumer with acknack := .waiting }
     else { consumer with acknack := .finished, cancelled := true },
      [.wrote frame written])
  | .acknackEnded, .waiting =>
    (if consumer.cancelled then { consumer with acknack := .finished } else consumer, [])
  | _, _ => (consumer, [])

/-- The steps of the task that watches for silence. -/
def stepWatch (consumer : Consumer σ) (moment : Moment) (event : Event) : Consumer σ :=
  if consumer.watching then
    match event with
    | .contactDue => consumer.checkContact moment
    | .watchEnded => if consumer.cancelled then { consumer with watching := false } else consumer
    | _ => consumer
  else consumer

/-- The steps of the task that keeps the gap state. -/
def stepKeeper (consumer : Consumer σ) (moment : Moment) (event : Event) :
    Consumer σ × List Effect :=
  match event, consumer.keeper with
  | .storeDue, .waiting => ({ consumer.expire moment with keeper := .expired }, [])
  | .stateTaken, .expired =>
    match consumer.tracker.toState with
    | some state => ({ consumer with keeper := .holding state }, [])
    | none => ({ consumer with keeper := .waiting }, [])
  | .stateStored, .holding state => { consumer with keeper := .waiting }.save state
  | .keepingEnded, .waiting =>
    (if consumer.cancelled then { consumer with keeper := .finished } else consumer, [])
  | _, _ => (consumer, [])

def step (consumer : Consumer σ) (moment : Moment) (event : Event) : Consumer σ × List Effect :=
  match event with
  | .accepted =>
    if consumer.isIdle && !consumer.stopping then consumer.accept moment else (consumer, [])
  | .received _ | .readEnded | .published _ | .publicationAbandoned | .compared | .answered _
  | .trackerReset => consumer.stepReader moment event
  | .acknackDue | .acknackWritten _ | .acknackEnded => consumer.stepAcknack event
  | .contactDue | .watchEnded => (consumer.stepWatch moment event, [])
  | .storeDue | .stateTaken | .stateStored | .keepingEnded => consumer.stepKeeper moment event
  | .drained => if consumer.isDrained then consumer.finish else (consumer, [])
  | .farewellWritten written =>
    match consumer.farewell with
    | some alert =>
      let (next, effects) := consumer.closeLink
      (next, .wrote alert written :: effects)
    | none => (consumer, [])
  | .shutdown => ({ consumer with stopping := true, cancelled := true }, [])
  | .stopped =>
    if consumer.isIdle && consumer.stopping && !consumer.stopped then
      { consumer with stopped := true }.persist
    else (consumer, [])

/-- Events one after the other, each with the moment at which it happens. -/
def run (consumer : Consumer σ) (events : List (Moment × Event)) : Consumer σ × List Effect :=
  Machine.run (fun consumer (moment, event) => consumer.step moment event) consumer events

end Consumer

end ContinuousData
