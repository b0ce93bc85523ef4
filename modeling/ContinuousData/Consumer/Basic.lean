import ContinuousData.Consumer.Config
import ContinuousData.Gap.Store
import ContinuousData.Gap.Tracker
import ContinuousData.Stream.Incoming

/-! The data consumer of a station: it serves one data provider at a time and keeps track of the
sequence numbers that it has received, over connections and, in a store, over restarts. While a
connection is served four tasks take turns: one reads from the provider, one acknowledges, one
watches for silence and one keeps the gap state in the store. -/
namespace ContinuousData

inductive LinkState where
  | disconnected
  | connecting
  | connected
  /-- Nothing more is read, and the tasks are coming to their ends. -/
  | draining
  | closed
  deriving DecidableEq, Repr

/-- What the task that reads from the provider is about. -/
inductive ReaderTask where
  | waiting
  | publishing (frame : Frame)
  | comparing (peerHighest : UInt64)
  | answering (response : Frame)
  | resetting
  | finished
  deriving DecidableEq, Repr

inductive AcknackTask where
  | waiting
  | writing (frame : Frame)
  | finished
  deriving DecidableEq, Repr

/-- What the task that keeps the gap state is about. -/
inductive KeeperTask where
  | waiting
  /-- Gaps that are too old have been given up. -/
  | expired
  /-- A state has been taken, but is not yet in the store. -/
  | holding (state : GapState)
  | finished
  deriving DecidableEq, Repr

structure Consumer (σ : Type) where
  config : ConsumerConfig
  endpoint : Endpoint
  tracker : Tracker
  store : σ
  state : LinkState := .disconnected
  reader : ReaderTask := .finished
  acknack : AcknackTask := .finished
  watching : Bool := false
  keeper : KeeperTask := .finished
  /-- The tasks of the connection have been told to finish. -/
  cancelled : Bool := false
  /-- When something was last read from the provider, in uptime. -/
  lastContact : Duration := 0
  /-- The ALERT that is being written as the last frame of a connection. -/
  farewell : Option Frame := none
  /-- The consumer has been told to stop. -/
  stopping : Bool := false
  stopped : Bool := false

namespace Consumer

/-- What a consumer does that can be noticed from outside. -/
inductive Effect where
  | entered (state : LinkState)
  | handled (incoming : Incoming)
  | wrote (frame : Frame) (written : Bool)
  | published (frame : Frame) (failure : Option Error)
  /-- The connection ended before the publisher took the frame. -/
  | unpublished (frame : Frame)
  | reported (broken : PartialFrame)
  | stored (state : GapState) (failure : Option Error)
  | removed (failure : Option Error)
  | alertFailed (reason : Error)
  deriving DecidableEq, Repr

namespace Effect

/-- What is logged as an error. -/
def complaint? : Effect → Option String
  | published _ (some reason) => some ("publishing DATA frame failed: " ++ reason.message)
  | stored _ (some reason) => some ("persisting gap state failed: " ++ reason.message)
  | removed (some reason) => some ("removing persisted gap state failed: " ++ reason.message)
  | alertFailed reason => some ("creating ALERT frame failed: " ++ reason.message)
  | _ => none

end Effect

/-- The tracker to start with. A state that cannot be loaded counts as none. -/
def restored : Except Error (Option GapState) → Tracker
  | .ok (some state) =>
    match Tracker.ofState state with
    | .ok tracker => tracker
    | .error _ => .empty
  | _ => .empty

variable {σ : Type} [GapStore σ]

/-- A consumer that waits for its first provider. -/
def bind (config : ConsumerConfig) (store : σ) : Except Error (Consumer σ) := do
  config.check
  let endpoint ← Endpoint.ofSettings config.endpoint
  let (loaded, store) := GapStore.load store config.station
  return { config, endpoint, tracker := restored loaded, store }

def failure? : Except Error Unit → Option Error
  | .error reason => some reason
  | .ok () => none

/-- Puts a gap state into the store. -/
def save (consumer : Consumer σ) (state : GapState) : Consumer σ × List Effect :=
  let (outcome, store) := GapStore.store consumer.store consumer.config.station state
  ({ consumer with store }, [.stored state (failure? outcome)])

/-- Stores what is tracked. There is nothing to store before anything was received, nor after a
reset. -/
def persist (consumer : Consumer σ) : Consumer σ × List Effect :=
  match consumer.tracker.toState with
  | some state => consumer.save state
  | none => (consumer, [])

end Consumer

end ContinuousData
