import ContinuousData.Date.Moment
import ContinuousData.Machine
import ContinuousData.Provider.Basic

/-! Runs of a data provider's connection. What happens next is given by a list of events; one that
cannot happen in a state leaves it as it is. -/
namespace ContinuousData

namespace Provider

inductive Event where
  | called (call : Call)
  /-- A call does its next action. Writes succeed as `success` says; where a response has come, but
  the connection is closed, it says whether the response is noticed. -/
  | resumed (task : Nat) (success : Bool)
  | heartbeatDue
  | heartbeatResumed (success : Bool)
  | heartbeatEnded
  | received (incoming : Incoming)
  /-- There is nothing more to read: the stream has ended or failed, or is no longer wanted. -/
  | readEnded
  /-- What was sent so far is forgotten. -/
  | forgotten
  deriving DecidableEq, Repr

/-- How a task goes on after an action. -/
inductive Progress where
  | next (first : List Action)
  | finish (outcome : Outcome)
  | wait
  deriving DecidableEq, Repr

/-- What a call that waits for a response comes to. -/
def awaited (provider : Provider) (task : Nat) (success : Bool) : Progress :=
  if provider.closed ∧ ¬ success then .finish (.failed .closedBeforeResponse)
  else match provider.responses.lookup task with
    | some response => .finish (.answered response)
    | none =>
      if provider.expecting ≠ some task then .finish (.failed .requestSuperseded)
      else if provider.closed then .finish (.failed .closedBeforeResponse)
      else .wait

def heartbeatFailure (reason : Error) : Effect :=
  .complained ("error sending ACKNACK: " ++ reason.message)

/-- Does an action of a call; the heartbeat has no actions that depend on which call it is. -/
def act (provider : Provider) (moment : Moment) (task : Nat) (success : Bool) :
    Action → Provider × List Effect × Progress
  | .record n => ({ provider with sent := provider.sent.add n moment.wall }, [], .next [])
  | .expect => ({ provider with expecting := some task }, [], .next [])
  | .check =>
    (provider, [], if provider.closed then .finish (.failed .clientClosed) else .next [])
  | .write frame =>
    (provider, [.wrote frame success],
      if success then .next [] else .finish (.failed .writeFailed))
  | .await => (provider, [], provider.awaited task success)
  | .fail reason => (provider, [], .finish (.failed reason))
  | .leaveIfClosed => (provider, [], if provider.closed then .finish .done else .next [])
  | .sayGoodbye message =>
    match provider.endpoint.alert message with
    | .ok alert => (provider, [.wrote alert success], .next [])
    | .error _ => (provider, [], .next [])
  | .close => ({ provider with closed := true }, [], .next [])
  | .readLowest => (provider, [], .next [.readHighest (provider.sent.lowest.getD 0)])
  | .readHighest lowest =>
    (provider, [], .next [.acknowledge lowest (provider.sent.highest.getD 0)])
  | .acknowledge lowest highest =>
    match provider.endpoint.acknack heartbeatFrameset lowest highest [] with
    | .ok frame =>
      (provider,
        .wrote frame success :: (if success then [] else [heartbeatFailure .writeFailed]),
        .next [])
    | .error reason => (provider, [heartbeatFailure reason], .next [])

/-- Lets a task do its next action. -/
def resume (provider : Provider) (moment : Moment) (id : Nat) (task : Task) (success : Bool) :
    Provider × List Effect × Task :=
  match task.todo with
  | [] => (provider, [], task)
  | action :: others =>
    match provider.act moment id success action with
    | (next, effects, .next first) => (next, effects, { task with todo := first ++ others })
    | (next, effects, .finish outcome) => (next, effects, { todo := [], outcome })
    | (next, effects, .wait) => (next, effects, task)

def handleFrame (provider : Provider) (moment : Moment) (frame : Frame) :
    Provider × List Effect :=
  match frame.body with
  | .acknack acknowledgement =>
    ({ provider with
       lastAcknack := moment.uptime
       endpoint := provider.endpoint.adoptFrameset acknowledgement.frameset },
      [.acknowledged acknowledgement])
  | .alert _ => ({ provider with reading := false, closed := true }, [])
  | .connectionResponse response =>
    match provider.expecting with
    | some task =>
      ({ provider with
         expecting := none, responses := (task, response) :: provider.responses }, [])
    | none =>
      (provider, [.complained
        ("received CONNECTION_RESPONSE from " ++ response.name ++ " without sending a request")])
  | _ => (provider, [])

def handle (provider : Provider) (moment : Moment) : Incoming → Provider × List Effect
  | .frame frame => provider.handleFrame moment frame
  | .malformed broken =>
    (provider, [.complained ("unable to parse frame from peer: " ++ broken.text)])

/-- What the heartbeat starts to do: it acknowledges, or closes the connection if the peer has not
acknowledged for too long. -/
def beat (provider : Provider) (moment : Moment) : Provider :=
  if provider.config.patience < moment.uptime - provider.lastAcknack then
    { provider with heartbeat := { todo := closing timeoutMessage }, heartbeatEnded := true }
  else { provider with heartbeat := { todo := [.readLowest] } }

def step (provider : Provider) (moment : Moment) : Event → Provider × List Effect
  | .called call => ({ provider with tasks := provider.tasks ++ [provider.taskFor call] }, [])
  | .resumed id success =>
    match provider.tasks[id]? with
    | some task =>
      let (next, effects, task) := provider.resume moment id task success
      ({ next with tasks := next.tasks.set id task }, effects)
    | none => (provider, [])
  | .heartbeatDue =>
    (if provider.heartbeat.todo = [] ∧ ¬ provider.heartbeatEnded then provider.beat moment
     else provider, [])
  | .heartbeatResumed success =>
    let (next, effects, task) :=
      provider.resume moment provider.tasks.length provider.heartbeat success
    ({ next with heartbeat := task }, effects)
  | .heartbeatEnded =>
    (if provider.heartbeat.todo = [] ∧ provider.closed then
       { provider with heartbeatEnded := true }
     else provider, [])
  | .received incoming =>
    if provider.reading then provider.handle moment incoming else (provider, [])
  | .readEnded =>
    (if provider.reading then { provider with reading := false, closed := true } else provider, [])
  | .forgotten => ({ provider with sent := .empty }, [])

/-- Events one after the other, each with the moment at which it happens. -/
def run (provider : Provider) (events : List (Moment × Event)) : Provider × List Effect :=
  Machine.run (fun provider (moment, event) => provider.step moment event) provider events

end Provider

end ContinuousData
