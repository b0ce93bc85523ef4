import ContinuousData.Proofs.ProviderMoves
import ContinuousData.Proofs.TrueAcknowledgements

/-! What a data provider writes after its ALERT. Everyone who writes has looked before whether the
connection is closed, and nobody looks again. So the ALERT is the last frame of a connection if
nobody stands between the look and the write when the connection is closed. -/
namespace ContinuousData

theorem Endpoint.alert_adoptFrameset (endpoint : Endpoint) (frameset message : String) :
    (endpoint.adoptFrameset frameset).alert message = endpoint.alert message := by
  unfold adoptFrameset
  cases taken : endpoint.setFrameset frameset with
  | error reason => rfl
  | ok changed =>
    obtain ⟨_, -, same⟩ := bind_eq_ok.mp taken
    obtain rfl := pure_eq_ok.mp same
    rfl

namespace Provider

/-- The action leads to a frame, without another look at whether the connection is closed. -/
def Action.Writes (endpoint : Endpoint) : Action → Prop
  | .write _ | .readLowest | .readHighest _ | .acknowledge _ _ => True
  | .sayGoodbye message => ∃ alert, endpoint.alert message = .ok alert
  | _ => False

/-- A look at whether the connection is closed. -/
def Action.isCheck : Action → Bool
  | .check | .leaveIfClosed => true
  | _ => false

/-- Nothing is written before the next look. -/
def IsQuiet (endpoint : Endpoint) : List Action → Prop
  | [] => True
  | action :: others => action.isCheck = true ∨ ¬ action.Writes endpoint ∧ IsQuiet endpoint others

/-- The next action of a task leads to a frame. -/
def Task.IsAboutToWrite (endpoint : Endpoint) (task : Task) : Prop :=
  ∃ action ∈ task.todo.head?, action.Writes endpoint

variable {endpoint : Endpoint} {action : Action} {todo others : List Action} {task : Task}

/-- A call looks before it writes, and writes once. -/
theorem IsPlan.isQuiet_tails {plan : List Action} (h : IsPlan plan) :
    ∀ todo ∈ plan.tails,
      (∃ action ∈ todo.head?, action.Writes endpoint) ∨ IsQuiet endpoint todo := by
  cases h with
  | close message =>
    -- whether the ALERT can be made decides whether anything is written
    by_cases made : ∃ alert, endpoint.alert message = .ok alert <;>
      simp [closing, IsQuiet, Action.Writes, Action.isCheck, made]
  | _ => simp [IsQuiet, Action.Writes, Action.isCheck]

theorem IsRest.isQuiet (h : IsRest task.todo) (waits : ¬ task.IsAboutToWrite endpoint) :
    IsQuiet endpoint task.todo := by
  obtain ⟨plan, isPlan, suffix⟩ := h
  exact (isPlan.isQuiet_tails task.todo ((List.mem_tails _ _).mpr suffix)).resolve_left waits

/-- A heartbeat that has begun leads to an acknowledgement. -/
theorem IsBeat.isAboutToWrite (h : IsBeat task.todo) (busy : task.todo ≠ []) :
    task.IsAboutToWrite endpoint := by
  unfold Task.IsAboutToWrite
  cases same : task.todo <;> rw [same] at h
  · exact absurd same busy
  · cases h <;> exact ⟨_, rfl, trivial⟩

theorem IsBeat.isQuiet (h : IsBeat task.todo) (waits : ¬ task.IsAboutToWrite endpoint) :
    IsQuiet endpoint task.todo := by
  have rests := not_imp_comm.mp h.isAboutToWrite waits
  rw [rests]
  trivial

variable {provider next : Provider} {moment : Moment} {event : Event} {effects : List Effect}
  {id : Nat} {success : Bool} {progress : Progress}

theorem writes_adoptFrameset (frameset : String) :
    action.Writes (endpoint.adoptFrameset frameset) ↔ action.Writes endpoint := by
  cases action with
  | sayGoodbye message => simp only [Action.Writes, Endpoint.alert_adoptFrameset]
  | _ => exact Iff.rfl

theorem isQuiet_adoptFrameset (frameset : String) :
    IsQuiet (endpoint.adoptFrameset frameset) todo ↔ IsQuiet endpoint todo := by
  induction todo with
  | nil => exact Iff.rfl
  | cons action others ih => simp only [IsQuiet, writes_adoptFrameset, ih]

/-- A connection on which nothing is written any more. Heartbeats may come due only if `beats` says
so. -/
structure IsSilent (provider : Provider) (beats : Prop) : Prop where
  closed : provider.closed = true
  ended : beats → provider.heartbeatEnded = true
  calls : ∀ task ∈ provider.tasks, IsQuiet provider.endpoint task.todo
  heartbeat : IsQuiet provider.endpoint provider.heartbeat.todo

variable {beats : Prop}

theorem isQuiet_taskFor (provider : Provider) (call : Call) :
    IsQuiet endpoint (provider.taskFor call).todo := by
  refine (provider.isRest_taskFor call).isQuiet ?_
  cases call with
  | sendData frame =>
    simp only [taskFor]
    split <;> simp [Task.IsAboutToWrite, Action.Writes]
  | request ip port =>
    simp only [taskFor]
    split <;> simp [Task.IsAboutToWrite, Action.Writes]
  | _ => simp [taskFor, closing, Task.IsAboutToWrite, Action.Writes]

/-- A task that is quiet stays so on a connection that is closed, and writes nothing. -/
theorem IsQuiet.after (quiet : IsQuiet provider.endpoint task.todo)
    (closed : provider.closed = true) (first : task.todo = action :: others)
    (acts : provider.act moment id success action = (next, effects, progress)) :
    next.closed = true ∧ Link.written effects = [] ∧
      IsQuiet provider.endpoint (task.after others progress).todo := by
  have whole := quiet
  rw [first] at quiet
  rcases quiet with check | ⟨silent, later⟩
  · cases action with
    | check | leaveIfClosed =>
      simp only [act, closed, if_true] at acts
      obtain ⟨rfl, rfl, rfl⟩ := acts
      exact ⟨closed, rfl, trivial⟩
    | _ => cases check
  · cases action with
    | record n | expect | close =>
      simp only [act] at acts
      obtain ⟨rfl, rfl, rfl⟩ := acts
      exact ⟨by first | exact closed | rfl, rfl, later⟩
    | check | leaveIfClosed =>
      simp only [act, closed, if_true] at acts
      obtain ⟨rfl, rfl, rfl⟩ := acts
      exact ⟨closed, rfl, trivial⟩
    | fail reason =>
      simp only [act] at acts
      obtain ⟨rfl, rfl, rfl⟩ := acts
      exact ⟨closed, rfl, trivial⟩
    | await =>
      simp only [act] at acts
      obtain ⟨rfl, rfl, rfl⟩ := acts
      refine ⟨closed, rfl, ?_⟩
      cases waits : provider.awaited id success with
      | next more => exact absurd waits (awaited_ne_next success id more)
      | finish outcome => trivial
      | wait => exact whole
    | sayGoodbye message =>
      simp only [act] at acts
      split at acts
      case h_1 alert made => exact absurd ⟨alert, made⟩ silent
      case h_2 =>
        obtain ⟨rfl, rfl, rfl⟩ := acts
        exact ⟨closed, rfl, later⟩
    | write _ | readLowest | readHighest _ | acknowledge _ _ => exact absurd trivial silent

theorem CallsMove.isQuiet {tasks : List Task} (closed : provider.closed = true)
    (quiet : ∀ task ∈ provider.tasks, IsQuiet provider.endpoint task.todo)
    (calls : provider.CallsMove moment event tasks) :
    ∀ task ∈ tasks, IsQuiet provider.endpoint task.todo := by
  intro task member
  cases calls with
  | same => exact quiet task member
  | new call =>
    rcases List.mem_append.mp member with old | new
    · exact quiet task old
    · rw [List.mem_singleton.mp new]
      exact provider.isQuiet_taskFor call
  | acted turn found first acts =>
    rcases List.mem_or_eq_of_mem_set member with old | rfl
    · exact quiet task old
    · have before := quiet _ (List.mem_of_getElem? found)
      exact (before.after closed first acts).2.2

theorem IsSilent.move (h : provider.IsSilent beats)
    (move : provider.Moves moment event next effects) (timely : event = .heartbeatDue → beats) :
    next.IsSilent beats ∧ Link.written effects = [] := by
  have calls := move.calls.isQuiet h.closed h.calls
  cases move with
  | idle => exact ⟨h, rfl⟩
  | @acted actor task action others next effects progress success found first acts =>
    obtain ⟨-, heartbeat, ended, endpoint, -, -⟩ :=
      act_keeps provider moment (provider.number actor) success action
    rw [acts] at heartbeat ended endpoint
    dsimp only at heartbeat ended endpoint
    have quiet : IsQuiet provider.endpoint task.todo := by
      cases actor with
      | call id => exact h.calls task (List.mem_of_getElem? found)
      | heartbeat => exact Option.some.inj found ▸ h.heartbeat
    obtain ⟨closed, nothing, after⟩ := quiet.after h.closed first acts
    refine ⟨?_, nothing⟩
    rw [← endpoint] at calls
    cases actor with
    | call id =>
      refine ⟨closed, fun due => ended.trans (h.ended due), calls, ?_⟩
      show IsQuiet next.endpoint next.heartbeat.todo
      rw [endpoint, heartbeat]
      exact h.heartbeat
    | heartbeat =>
      refine ⟨closed, fun due => ended.trans (h.ended due), calls, ?_⟩
      show IsQuiet next.endpoint (task.after others progress).todo
      rw [endpoint]
      exact after
  | called call => exact ⟨⟨h.closed, h.ended, calls, h.heartbeat⟩, rfl⟩
  | due rests goes =>
    rw [h.ended (timely rfl)] at goes
    exact nomatch goes
  | ended rests closed => exact ⟨⟨h.closed, fun _ => rfl, h.calls, h.heartbeat⟩, rfl⟩
  | heard incoming reads =>
    obtain ⟨-, -, heartbeat, nothing⟩ := provider.handle_keeps moment incoming
    obtain ⟨closed, ended, endpoint⟩ := provider.handle_later moment incoming
    have same (todo : List Action) :
        IsQuiet (provider.handle moment incoming).1.endpoint todo ↔
          IsQuiet provider.endpoint todo := by
      rcases endpoint with same | ⟨frameset, adopted⟩
      · rw [same]
      · rw [adopted, isQuiet_adoptFrameset]
    refine ⟨⟨closed h.closed, fun due => ended.trans (h.ended due), fun task member => ?_, ?_⟩,
      nothing⟩
    · rw [same]
      exact calls task member
    · rw [same, heartbeat]
      exact h.heartbeat
  | unread reads => exact ⟨⟨rfl, h.ended, h.calls, h.heartbeat⟩, rfl⟩
  | forgotten => exact ⟨⟨h.closed, h.ended, h.calls, h.heartbeat⟩, rfl⟩

theorem IsSilent.run (h : provider.IsSilent beats) {events : List (Moment × Event)}
    (timely : ∀ event ∈ events, event.2 = .heartbeatDue → beats) :
    Link.written (provider.run events).2 = [] := by
  induction events generalizing provider with
  | nil => rfl
  | cons first events ih =>
    obtain ⟨moment, event⟩ := first
    obtain ⟨now, later⟩ := List.forall_mem_cons.mp timely
    obtain ⟨silent, nothing⟩ := h.move (provider.moves_step moment event) now
    rw [run_cons, written_append, nothing, ih silent later, List.nil_append]

variable {actor : Actor}

/-- Something is written in a run in which heartbeats come due only if `beats` says so. -/
def CanWrite (provider : Provider) (beats : Prop) : Prop :=
  ∃ events, (∀ event ∈ events, event.2 = .heartbeatDue → beats) ∧
    Link.written (provider.run events).2 ≠ []

theorem CanWrite.of_step (h : (provider.step moment event).1.CanWrite beats)
    (timely : event = .heartbeatDue → beats) : provider.CanWrite beats := by
  obtain ⟨events, later, some⟩ := h
  refine ⟨(moment, event) :: events, List.forall_mem_cons.mpr ⟨timely, later⟩, ?_⟩
  rw [run_cons, written_append]
  exact List.append_ne_nil_of_right_ne_nil _ some

theorem acts_ne_due (actor : Actor) (success : Bool) : actor.acts success ≠ .heartbeatDue := by
  cases actor <;> exact nofun

theorem CanWrite.of_acts (h : (provider.step moment (actor.acts success)).1.CanWrite beats) :
    provider.CanWrite beats :=
  h.of_step fun due => absurd due (acts_ne_due actor success)

theorem task?_put (found : provider.task? actor = some task) (other : Task) :
    (provider.put other actor).task? actor = some other := by
  cases actor with
  | call id =>
    obtain ⟨inside, -⟩ := List.getElem?_eq_some_iff.mp found
    show (provider.tasks.set id other)[id]? = some other
    simp [inside]
  | heartbeat => rfl

theorem canWrite_of_written (found : provider.task? actor = some task)
    (first : task.todo = action :: others)
    (writes : Link.written (provider.act ⟨0, 0⟩ (provider.number actor) true action).2.1 ≠ []) :
    provider.CanWrite beats := by
  refine ⟨[(⟨0, 0⟩, actor.acts true)], ?_, ?_⟩
  · rw [List.forall_mem_singleton]
    exact fun due => absurd due (acts_ne_due actor true)
  · rw [run_cons, step_acts found first, written_append]
    exact List.append_ne_nil_of_left_ne_nil writes _

theorem canWrite_of_acknowledge (built : provider.endpoint.IsBuilt) {lowest highest : UInt64}
    (found : provider.task? actor = some task)
    (first : task.todo = .acknowledge lowest highest :: others) : provider.CanWrite beats := by
  have fits : Text.size heartbeatFrameset ≤ Acknowledgement.framesetWidth := by decide
  obtain ⟨ack, made⟩ := (built.exists_acknack_iff fits lowest highest []).mpr (by decide)
  refine canWrite_of_written found first ?_
  simp [act, made, Link.written]

theorem canWrite_of_readHighest (built : provider.endpoint.IsBuilt) {lowest : UInt64}
    (found : provider.task? actor = some task)
    (first : task.todo = .readHighest lowest :: others) : provider.CanWrite beats := by
  refine @CanWrite.of_acts provider ⟨0, 0⟩ true beats actor ?_
  rw [step_acts found first]
  exact canWrite_of_acknowledge (by cases actor <;> exact built) (task?_put found _) rfl

/-- Whoever is about to write does so if it is let on. -/
theorem IsInOrder.canWrite (order : provider.IsInOrder) (found : provider.task? actor = some task)
    (about : task.IsAboutToWrite provider.endpoint) : provider.CanWrite beats := by
  obtain ⟨action, head, writes⟩ := about
  obtain ⟨others, first⟩ := List.head?_eq_some_iff.mp head
  cases action with
  | write frame => exact canWrite_of_written found first (List.cons_ne_nil frame [])
  | sayGoodbye message =>
    obtain ⟨alert, made⟩ := writes
    refine canWrite_of_written found first ?_
    simp [act, made, Link.written]
  | acknowledge lowest highest => exact canWrite_of_acknowledge order.built found first
  | readHighest lowest => exact canWrite_of_readHighest order.built found first
  | readLowest =>
    refine @CanWrite.of_acts provider ⟨0, 0⟩ true beats actor ?_
    rw [step_acts found first]
    refine canWrite_of_readHighest ?_ (task?_put found _) rfl
    cases actor <;> exact order.built
  | _ => exact writes.elim

/-- On a connection that is open, a frame can be sent. -/
theorem IsInOrder.canWrite_of_open (order : provider.IsInOrder) (goes : provider.closed = false) :
    provider.CanWrite beats := by
  let frame : Frame := ⟨⟨.customReset, 36, "", "", 0, 0⟩, .customReset [], ⟨0, [], 0⟩, []⟩
  let called := (provider.step ⟨0, 0⟩ (.called (.sendFrame frame))).1
  let actor : Actor := .call provider.tasks.length
  have found : called.task? actor = some { todo := [.check, .write frame] } := by
    show (provider.tasks ++ [_])[provider.tasks.length]? = _
    simp [taskFor]
  have passes : (called.step ⟨0, 0⟩ (actor.acts true)).1 =
      called.put { todo := [.write frame] } actor := by
    have goesOn : called.closed = false := goes
    rw [step_acts found rfl]
    simp [act, goesOn, Task.after]
  have ordered : called.IsInOrder := order.move (provider.moves_step _ _)
  have later := ordered.move (called.moves_step ⟨0, 0⟩ (actor.acts true))
  rw [passes] at later
  have writes : (called.put { todo := [.write frame] } actor).CanWrite beats :=
    later.canWrite (task?_put found _) ⟨_, rfl, trivial⟩
  rw [← passes] at writes
  refine writes.of_acts.of_step fun due => ?_
  cases due

/-- Where a heartbeat is still to come, it acknowledges. -/
theorem IsInOrder.canWrite_of_beating (order : provider.IsInOrder)
    (goes : provider.heartbeatEnded = false) (due : beats) : provider.CanWrite beats := by
  rcases order.heartbeat with acknowledges | ⟨gone, -⟩
  · by_cases rests : provider.heartbeat.todo = []
    · have begins : (provider.step ⟨0, provider.lastAcknack⟩ .heartbeatDue).1 =
          { provider with heartbeat := { todo := [.readLowest] } } := by
        simp [step, rests, goes, beat]
      have ordered := order.move (provider.moves_step ⟨0, provider.lastAcknack⟩ .heartbeatDue)
      rw [begins] at ordered
      have writes := @IsInOrder.canWrite _ _ beats .heartbeat ordered rfl ⟨_, rfl, trivial⟩
      rw [← begins] at writes
      exact writes.of_step fun _ => due
    · exact @IsInOrder.canWrite _ _ _ .heartbeat order rfl (acknowledges.isAboutToWrite rests)
  · rw [goes] at gone
    cases gone

theorem IsInOrder.isQuiet (order : provider.IsInOrder) {actor : Actor} {task : Task}
    (found : provider.task? actor = some task) (waits : ¬ task.IsAboutToWrite provider.endpoint) :
    IsQuiet provider.endpoint task.todo := by
  cases actor with
  | call id => exact (order.calls task (List.mem_of_getElem? found)).isQuiet waits
  | heartbeat =>
    obtain rfl := Option.some.inj found
    rcases order.heartbeat with acknowledges | ⟨-, rest⟩
    · exact acknowledges.isQuiet waits
    · exact IsRest.isQuiet ⟨_, .close timeoutMessage, rest⟩ waits

/-- Nobody is about to write. -/
def IsAtRest (provider : Provider) : Prop :=
  ∀ actor task, provider.task? actor = some task → ¬ task.IsAboutToWrite provider.endpoint

/-- When nothing more is written, however a run goes on. -/
theorem IsInOrder.not_canWrite_iff (order : provider.IsInOrder) :
    ¬ provider.CanWrite beats ↔
      provider.closed = true ∧ (beats → provider.heartbeatEnded = true) ∧ provider.IsAtRest := by
  constructor
  · intro silent
    refine ⟨?_, fun due => ?_, fun actor task found about => ?_⟩
    · by_contra goes
      exact silent (order.canWrite_of_open (Bool.eq_false_iff.mpr goes))
    · by_contra goes
      exact silent (order.canWrite_of_beating (Bool.eq_false_iff.mpr goes) due)
    · exact silent (order.canWrite found about)
  · rintro ⟨closed, ended, rest⟩ ⟨events, timely, writes⟩
    have silent : provider.IsSilent beats :=
      ⟨closed, ended, fun task member => by
        obtain ⟨id, found⟩ := List.mem_iff_getElem?.mp member
        exact @IsInOrder.isQuiet provider order (.call id) task found (rest (.call id) task found),
        @IsInOrder.isQuiet provider order .heartbeat _ rfl (rest .heartbeat _ rfl)⟩
    exact writes (silent.run timely)

theorem CallsMove.getElem?_eq {tasks : List Task} {id : Nat} {task : Task}
    (calls : provider.CallsMove moment event tasks) (found : provider.tasks[id]? = some task)
    (other : ∀ success, event ≠ .resumed id success) : tasks[id]? = some task := by
  cases calls with
  | same => exact found
  | new call =>
    obtain ⟨inside, -⟩ := List.getElem?_eq_some_iff.mp found
    exact (List.getElem?_append_left inside).trans found
  | @acted turn task action others next effects progress success same _ first acts =>
    have apart : turn ≠ id := by
      rintro rfl
      exact other success same
    rw [List.getElem?_set_ne apart]
    exact found

/-- A task that is not done waits for its own turn. -/
theorem Moves.task?_eq {actor : Actor} {task : Task} (found : provider.task? actor = some task)
    (busy : task.todo ≠ []) (move : provider.Moves moment event next effects)
    (other : ∀ success, event ≠ actor.acts success) : next.task? actor = some task := by
  cases actor with
  | call id => exact move.calls.getElem?_eq found other
  | heartbeat =>
    cases move with
    | @acted turn other' action others next effects progress success found' first acts =>
      have same := (act_keeps provider moment (provider.number turn) success action).2.1
      rw [acts] at same
      change next.heartbeat = provider.heartbeat at same
      cases turn with
      | call turn =>
        show some next.heartbeat = some task
        rw [same]
        exact found
      | heartbeat => exact absurd rfl (other success)
    | due rests goes =>
      obtain rfl := Option.some.inj found
      exact absurd rests busy
    | heard incoming reads =>
      show some (provider.handle moment incoming).1.heartbeat = some task
      rw [(provider.handle_keeps moment incoming).2.2.1]
      exact found
    | _ => exact found

theorem task?_run {actor : Actor} {task : Task} (found : provider.task? actor = some task)
    (busy : task.todo ≠ []) {events : List (Moment × Event)}
    (others : ∀ event ∈ events, ∀ success, event.2 ≠ actor.acts success) :
    (provider.run events).1.task? actor = some task := by
  induction events generalizing provider with
  | nil => exact found
  | cons first events ih =>
    obtain ⟨moment, event⟩ := first
    obtain ⟨now, later⟩ := List.forall_mem_cons.mp others
    exact ih ((provider.moves_step moment event).task?_eq found busy now) later

/-- Somebody closes the connection, has found it open, and can make the ALERT. -/
def IsLeaving (provider : Provider) (actor : Actor) (alert : Frame) : Prop :=
  ∃ task message, provider.task? actor = some task ∧
    task.todo = [.sayGoodbye message, .close] ∧ provider.endpoint.alert message = .ok alert

/-- Whoever leaves says so, and has only to close the connection then. -/
theorem IsLeaving.step_eq {actor : Actor} {alert : Frame} (leaves : provider.IsLeaving actor alert)
    (moment : Moment) :
    ∃ task, task.todo = [.close] ∧
      (provider.step moment (actor.acts true)).1.task? actor = some task ∧
      (provider.step moment (actor.acts true)).2 = [.wrote alert true] := by
  obtain ⟨task, message, found, first, made⟩ := leaves
  have spoken : provider.step moment (actor.acts true) =
      (provider.put { task with todo := [.close] } actor, [.wrote alert true]) := by
    rw [step_acts found first]
    simp [act, made, Task.after]
  rw [spoken]
  exact ⟨{ task with todo := [.close] }, rfl, task?_put found _, rfl⟩

theorem step_close {actor : Actor} {task : Task} (found : provider.task? actor = some task)
    (first : task.todo = [.close]) (moment : Moment) (success : Bool) :
    (provider.step moment (actor.acts success)).1.closed = true ∧
      (provider.step moment (actor.acts success)).2 = [] := by
  rw [step_acts found first]
  cases actor <;> exact ⟨rfl, rfl⟩

/-- The ALERT with which a connection is closed is its last frame, however the run goes on, exactly
if nothing is written until the connection counts as closed, nobody is about to write then, and no
heartbeat is to come. -/
theorem alert_last_iff {config : ProviderConfig} {uptime : Duration} {fresh : Provider}
    {greeting : List Effect} (started : start config uptime = .ok (fresh, greeting))
    {before meanwhile : List (Moment × Event)} {provider said waiting left : Provider}
    {actor : Actor} {alert : Frame} {moment last : Moment} {success : Bool}
    (reached : (fresh.run before).1 = provider) (leaves : provider.IsLeaving actor alert)
    (speaks : (provider.step moment (actor.acts true)).1 = said)
    (others : ∀ event ∈ meanwhile, ∀ success, event.2 ≠ actor.acts success)
    (waits : (said.run meanwhile).1 = waiting)
    (closes : (waiting.step last (actor.acts success)).1 = left) (beats : Prop) :
    (provider.step moment (actor.acts true)).2 = [.wrote alert true] ∧ left.closed = true ∧
      ((∀ later, (∀ event ∈ later, event.2 = .heartbeatDue → beats) →
          Link.written (said.run (meanwhile ++ (last, actor.acts success) :: later)).2 = []) ↔
        Link.written (said.run meanwhile).2 = [] ∧
          (beats → left.heartbeatEnded = true) ∧ left.IsAtRest) := by
  obtain ⟨task, first, there, spoken⟩ := leaves.step_eq moment
  obtain ⟨closed, nothing⟩ :
      left.closed = true ∧ (waiting.step last (actor.acts success)).2 = [] := by
    -- nobody but `actor` itself takes the next action of `actor`
    have still := task?_run (speaks ▸ there) (first ▸ List.cons_ne_nil _ _) others
    rw [waits] at still
    exact closes ▸ step_close still first last success
  have order : left.IsInOrder := by
    have first := reached ▸ (isInOrder_of_start started).run before
    have second := speaks ▸ first.move (provider.moves_step moment (actor.acts true))
    have third := waits ▸ second.run meanwhile
    exact closes ▸ third.move (waiting.moves_step last (actor.acts success))
  have whole (later : List (Moment × Event)) :
      Link.written (said.run (meanwhile ++ (last, actor.acts success) :: later)).2 =
        Link.written (said.run meanwhile).2 ++ Link.written (left.run later).2 := by
    rw [run_append, waits, run_cons, closes, written_append, written_append, nothing]
    rfl
  refine ⟨spoken, closed, ?_⟩
  simp only [whole, List.append_eq_nil_iff]
  have exactly := @IsInOrder.not_canWrite_iff left beats order
  constructor
  · intro silent
    refine ⟨(silent [] (List.forall_mem_nil _)).1, (exactly.mp ?_).2⟩
    rintro ⟨later, timely, writes⟩
    exact writes (silent later timely).2
  · rintro ⟨nothing, rest⟩ later timely
    refine ⟨nothing, ?_⟩
    by_contra writes
    exact exactly.mpr ⟨closed, rest⟩ ⟨later, timely, writes⟩

theorem exists_fresh :
    ∃ fresh greeting alert, start taciturn 0 = .ok (fresh, greeting) ∧
      fresh.endpoint.alert "bye" = .ok alert :=
  ⟨_, _, _, rfl, rfl⟩

/-- A close while nobody else does anything. -/
theorem alert_last_iff_alone :
    ∃ fresh greeting alert, start taciturn 0 = .ok (fresh, greeting) ∧
      fresh.endpoint.alert "bye" = .ok alert ∧
      ∀ later, (∀ event ∈ later, event.2 ≠ .heartbeatDue) →
        Link.written (fresh.run (atOnce [.called (.close "bye"), .resumed 0 true,
          .resumed 0 true, .resumed 0 true] ++ later)).2 = [alert] := by
  obtain ⟨fresh, greeting, alert, started, made⟩ := exists_fresh
  refine ⟨fresh, greeting, alert, started, made, fun later timely => ?_⟩
  obtain ⟨endpoint, -, same⟩ := eq_of_start started
  let before := atOnce [.called (.close "bye"), .resumed 0 true]
  let said : Provider := { fresh with tasks := [{ todo := [.close] }] }
  let left : Provider := { fresh with closed := true, tasks := [{ todo := [] }] }
  have reached : fresh.run before =
      ({ fresh with tasks := [{ todo := [.sayGoodbye "bye", .close] }] }, []) := by
    rw [same]
    simp [before, Provider.run, Machine.run, atOnce, step, taskFor, resume, act, closing]
  have speaks : ({ fresh with tasks := [{ todo := [.sayGoodbye "bye", .close] }] } :
      Provider).step ⟨0, 0⟩ (.resumed 0 true) = (said, [.wrote alert true]) := by
    simp [said, step, resume, act, made]
  have idle : fresh.heartbeat = { todo := [] } := by rw [same]
  have rest : left.IsAtRest := by
    rintro (id | -) task found ⟨action, first, -⟩
    · have none := List.mem_singleton.mp (List.mem_of_getElem? found)
      rw [none] at first
      cases first
    · have none : fresh.heartbeat = task := Option.some.inj found
      rw [← none, idle] at first
      cases first
  obtain ⟨-, -, exactly⟩ := @alert_last_iff taciturn 0 fresh greeting started before [] _ said said
    left (.call 0) alert ⟨0, 0⟩ ⟨0, 0⟩ true (congrArg Prod.fst reached)
    ⟨_, "bye", rfl, rfl, made⟩ (congrArg Prod.fst speaks) (List.forall_mem_nil _) rfl rfl False
  have silent := exactly.mpr ⟨rfl, False.elim, rest⟩ later timely
  calc Link.written (fresh.run (before ++ [(⟨0, 0⟩, .resumed 0 true)] ++
        (⟨0, 0⟩, .resumed 0 true) :: later)).2
    _ = [alert] ++ Link.written (said.run ((⟨0, 0⟩, .resumed 0 true) :: later)).2 := by
      rw [List.append_assoc, run_append, reached, List.singleton_append, run_cons, speaks]
      rfl
    _ = [alert] := by
      rw [show Link.written (said.run ((⟨0, 0⟩, .resumed 0 true) :: later)).2 = [] from silent,
        List.append_nil]

/-- A DATA frame is sent while the connection is being closed. -/
def overtaking (frame : Frame) : List (Moment × Event) :=
  atOnce [.called (.sendData frame), .called (.close "bye"), .resumed 0 true, .resumed 0 true,
    .resumed 1 true, .resumed 1 true, .resumed 1 true, .resumed 0 true]

/-- Two calls close the connection, and both of them find it open. -/
def closingTwice : List (Moment × Event) :=
  atOnce [.called (.close "bye"), .called (.close "bye"), .resumed 0 true, .resumed 1 true,
    .resumed 0 true, .resumed 1 true]

/-- The DATA frame is recorded and is written behind the ALERT, or there are two ALERTs. -/
theorem data_behind_alert :
    ∃ fresh greeting alert data, start taciturn 0 = .ok (fresh, greeting) ∧
      fresh.endpoint.alert "bye" = .ok alert ∧
      Endpoint.standard.data [Endpoint.silence 40] 7 = .ok data ∧
      Link.written (fresh.run (overtaking data)).2 = [alert, data] ∧
      (fresh.run (overtaking data)).1.sent = some (.single 7) ∧
      Link.written (fresh.run closingTwice).2 = [alert, alert] := by
  obtain ⟨fresh, greeting, alert, started, made⟩ := exists_fresh
  obtain ⟨frame, content, sent, number, body, back⟩ := Endpoint.exists_silence 7
  have type : frame.type = .data := by
    rw [← Frame.type_of_parse back, body]
    rfl
  refine ⟨fresh, greeting, alert, frame, started, made, sent, ?_⟩
  obtain ⟨endpoint, -, rfl⟩ := eq_of_start started
  refine ⟨?_, ?_, ?_⟩ <;>
    simp [Provider.run, Machine.run, overtaking, closingTwice, atOnce, step, taskFor, resume, act,
      made, closing, type, number, Link.written, Tracker.add, Tracker.empty]

end Provider

end ContinuousData
