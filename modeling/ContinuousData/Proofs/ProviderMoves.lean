import ContinuousData.Proofs.Heartbeats

/-! What a step of a data provider's connection can be. Calls and the heartbeat are tasks alike: one
of them does its next action, while the others stay where they are. Anything else that happens
leaves the tasks alone, but for calls that are new and heartbeats that are due. -/
namespace ContinuousData

namespace Provider

/-- Who acts: one of the calls, or the heartbeat. -/
inductive Actor where
  | call (id : Nat)
  | heartbeat
  deriving DecidableEq, Repr

/-- The event with which an actor does its next action. -/
def Actor.acts (success : Bool) : Actor → Event
  | call id => .resumed id success
  | heartbeat => .heartbeatResumed success

/-- The number under which an actor waits for a response. -/
def number (provider : Provider) : Actor → Nat
  | .call id => id
  | .heartbeat => provider.tasks.length

def task? (provider : Provider) : Actor → Option Task
  | .call id => provider.tasks[id]?
  | .heartbeat => some provider.heartbeat

def put (provider : Provider) (task : Task) : Actor → Provider
  | .call id => { provider with tasks := provider.tasks.set id task }
  | .heartbeat => { provider with heartbeat := task }

/-- A task after an action in front of `others`. -/
def Task.after (task : Task) (others : List Action) : Progress → Task
  | .next first => { task with todo := first ++ others }
  | .finish outcome => { todo := [], outcome }
  | .wait => task

/-- What happens when an event does. -/
inductive Moves (provider : Provider) (moment : Moment) : Event → Provider → List Effect → Prop
  /-- An event that cannot happen. -/
  | idle (event : Event) : Moves provider moment event provider []
  | acted {actor : Actor} {task : Task} {action : Action} {others : List Action}
      {next : Provider} {effects : List Effect} {progress : Progress} (success : Bool)
      (found : provider.task? actor = some task) (first : task.todo = action :: others)
      (acts : provider.act moment (provider.number actor) success action =
        (next, effects, progress)) :
      Moves provider moment (actor.acts success) (next.put (task.after others progress) actor)
        effects
  | called (call : Call) : Moves provider moment (.called call)
      { provider with tasks := provider.tasks ++ [provider.taskFor call] } []
  | due (rests : provider.heartbeat.todo = []) (goes : provider.heartbeatEnded = false) :
      Moves provider moment .heartbeatDue (provider.beat moment) []
  | ended (rests : provider.heartbeat.todo = []) (closed : provider.closed = true) :
      Moves provider moment .heartbeatEnded { provider with heartbeatEnded := true } []
  | heard (incoming : Incoming) (reads : provider.reading = true) :
      Moves provider moment (.received incoming) (provider.handle moment incoming).1
        (provider.handle moment incoming).2
  | unread (reads : provider.reading = true) : Moves provider moment .readEnded
      { provider with reading := false, closed := true } []
  | forgotten : Moves provider moment .forgotten { provider with sent := .empty } []

variable {provider next : Provider} {moment : Moment} {event : Event} {effects : List Effect}
  {actor : Actor} {task : Task} {action : Action} {others : List Action} {progress : Progress}
  {success : Bool}

/-- Apart from the task that it belongs to, an action changes no task and no endpoint. -/
theorem act_keeps (provider : Provider) (moment : Moment) (id : Nat) (success : Bool)
    (action : Action) :
    (provider.act moment id success action).1.tasks = provider.tasks ∧
      (provider.act moment id success action).1.heartbeat = provider.heartbeat ∧
      (provider.act moment id success action).1.heartbeatEnded = provider.heartbeatEnded ∧
      (provider.act moment id success action).1.endpoint = provider.endpoint ∧
      (provider.act moment id success action).1.reading = provider.reading ∧
      (provider.act moment id success action).1.responses = provider.responses := by
  cases action <;> simp only [act] <;> (try split) <;> simp

theorem step_acts (found : provider.task? actor = some task)
    (first : task.todo = action :: others) :
    provider.step moment (actor.acts success) =
      ((provider.act moment (provider.number actor) success action).1.put
        (task.after others (provider.act moment (provider.number actor) success action).2.2) actor,
        (provider.act moment (provider.number actor) success action).2.1) := by
  obtain ⟨tasks, heartbeat, -⟩ :=
    act_keeps provider moment (provider.number actor) success action
  cases actor with
  | call id =>
    simp only [Actor.acts, step, number, task?] at found ⊢
    rw [found]
    simp only [resume, first]
    split <;> simp_all [Task.after, put]
  | heartbeat =>
    simp only [Actor.acts, step, number, task?, Option.some.injEq] at found ⊢
    simp only [resume, found, first]
    split <;> simp_all [Task.after, put]

theorem moves_acts (provider : Provider) (moment : Moment) (actor : Actor) (success : Bool) :
    provider.Moves moment (actor.acts success) (provider.step moment (actor.acts success)).1
      (provider.step moment (actor.acts success)).2 := by
  cases found : provider.task? actor with
  | none =>
    cases actor with
    | call id =>
      simp only [task?] at found
      simp only [Actor.acts, step, found]
      exact .idle _
    | heartbeat => exact nomatch found
  | some task =>
    cases first : task.todo with
    | nil =>
      cases actor with
      | call id =>
        simp only [task?] at found
        have same : provider.tasks.set id task = provider.tasks := by
          obtain ⟨inside, rfl⟩ := List.getElem?_eq_some_iff.mp found
          exact List.set_getElem_self inside
        simp only [Actor.acts, step, found, resume, first, same]
        exact .idle _
      | heartbeat =>
        simp only [task?, Option.some.injEq] at found
        subst found
        simp only [Actor.acts, step, resume, first]
        exact .idle _
    | cons action others =>
      rw [step_acts found first]
      exact .acted success found first rfl

theorem moves_step (provider : Provider) (moment : Moment) (event : Event) :
    provider.Moves moment event (provider.step moment event).1 (provider.step moment event).2 := by
  cases event with
  | called call => exact .called call
  | resumed id success => exact provider.moves_acts moment (.call id) success
  | heartbeatDue =>
    simp only [step]
    split_ifs with h
    · exact .due h.1 (by simpa using h.2)
    · exact .idle _
  | heartbeatResumed success => exact provider.moves_acts moment .heartbeat success
  | heartbeatEnded =>
    simp only [step]
    split_ifs with h
    · exact .ended h.1 h.2
    · exact .idle _
  | received incoming =>
    simp only [step]
    split_ifs with reads
    · exact .heard incoming reads
    · exact .idle _
  | readEnded =>
    simp only [step]
    split_ifs with reads
    · exact .unread reads
    · exact .idle _
  | forgotten => exact .forgotten

/-- What a step makes of the calls. -/
inductive CallsMove (provider : Provider) (moment : Moment) (event : Event) : List Task → Prop
  | same : CallsMove provider moment event provider.tasks
  | new (call : Call) : CallsMove provider moment event (provider.tasks ++ [provider.taskFor call])
  | acted {id : Nat} {task : Task} {action : Action} {others : List Action} {next : Provider}
      {effects : List Effect} {progress : Progress} {success : Bool}
      (turn : event = .resumed id success) (found : provider.tasks[id]? = some task)
      (first : task.todo = action :: others)
      (acts : provider.act moment id success action = (next, effects, progress)) :
      CallsMove provider moment event (provider.tasks.set id (task.after others progress))

theorem Moves.calls (move : provider.Moves moment event next effects) :
    provider.CallsMove moment event next.tasks := by
  cases move with
  | @acted actor task action others next effects progress success found first acts =>
    have calls := (act_keeps provider moment (provider.number actor) success action).1
    rw [acts] at calls
    change next.tasks = provider.tasks at calls
    cases actor with
    | call id =>
      show provider.CallsMove moment _ (next.tasks.set id _)
      rw [calls]
      exact .acted rfl found first acts
    | heartbeat =>
      show provider.CallsMove moment _ next.tasks
      rw [calls]
      exact .same
  | called call => exact .new call
  | heard incoming reads =>
    rw [(provider.handle_keeps moment incoming).2.1]
    exact .same
  | due rests goes =>
    unfold beat
    split_ifs <;> exact .same
  | _ => exact .same

/-- What is to be done for a call from its start. -/
inductive IsPlan : List Action → Prop
  | data (n : UInt64) (frame : Frame) : IsPlan [.record n, .check, .write frame]
  | refused : IsPlan []
  | frame (frame : Frame) : IsPlan [.check, .write frame]
  | request (frame : Frame) : IsPlan [.expect, .check, .write frame, .await]
  | unasked (reason : Error) : IsPlan [.expect, .fail reason]
  | close (message : String) : IsPlan (closing message)

/-- What is left of a call. -/
def IsRest (todo : List Action) : Prop :=
  ∃ plan, IsPlan plan ∧ todo <:+ plan

/-- A heartbeat that acknowledges. -/
inductive IsBeat : List Action → Prop
  | rests : IsBeat []
  | first : IsBeat [.readLowest]
  | second (lowest : UInt64) : IsBeat [.readHighest lowest]
  | third (lowest highest : UInt64) : IsBeat [.acknowledge lowest highest]

variable {id : Nat} {todo : List Action}

/-- A provider as it is at any time: its calls look before they write, and so does its heartbeat
once it has given up. -/
structure IsInOrder (provider : Provider) : Prop where
  built : provider.endpoint.IsBuilt
  calls : ∀ task ∈ provider.tasks, IsRest task.todo
  heartbeat : IsBeat provider.heartbeat.todo ∨
    provider.heartbeatEnded = true ∧ provider.heartbeat.todo <:+ closing timeoutMessage

theorem isRest_taskFor (provider : Provider) (call : Call) :
    IsRest (provider.taskFor call).todo := by
  cases call with
  | sendData frame =>
    unfold taskFor
    dsimp only
    split_ifs
    · exact ⟨_, .data _ _, List.suffix_rfl⟩
    · exact ⟨_, .refused, List.suffix_rfl⟩
  | sendFrame frame => exact ⟨_, .frame frame, List.suffix_rfl⟩
  | request ip port =>
    unfold taskFor
    dsimp only
    cases made : provider.endpoint.connectionRequest ip port none with
    | ok frame => exact ⟨_, .request frame, List.suffix_rfl⟩
    | error reason => exact ⟨_, .unasked reason, List.suffix_rfl⟩
  | close message => exact ⟨_, .close message, List.suffix_rfl⟩

/-- Only a heartbeat has more to do after an action. -/
theorem act_more {more : List Action}
    (acts : provider.act moment id success action = (next, effects, .next more)) :
    more = [] ∨ action = .readLowest ∨ ∃ lowest, action = .readHighest lowest := by
  cases action with
  | readLowest => exact .inr (.inl rfl)
  | readHighest lowest => exact .inr (.inr ⟨lowest, rfl⟩)
  | await =>
    have waits := congrArg (·.2.2) acts
    exact absurd waits (awaited_ne_next success id more)
  | _ =>
    refine .inl ?_
    simp only [act] at acts
    grind

/-- An action of a call leaves the rest of the call to be done, or nothing, or is not done yet. -/
theorem IsRest.after_suffix (rest : IsRest task.todo) (first : task.todo = action :: others)
    (acts : provider.act moment id success action = (next, effects, progress)) :
    (task.after others progress).todo <:+ task.todo := by
  cases progress with
  | finish outcome => exact List.nil_suffix
  | wait => exact List.suffix_rfl
  | next more =>
    obtain ⟨plan, isPlan, suffix⟩ := rest
    rw [first] at suffix ⊢
    have planned := suffix.subset List.mem_cons_self
    -- the actions that lead to more are those of a heartbeat, and in no plan
    have nothing : more = [] := by
      rcases act_more acts with nothing | rfl | ⟨lowest, rfl⟩
      · exact nothing
      · cases isPlan <;> simp [closing] at planned
      · cases isPlan <;> simp [closing] at planned
    rw [nothing]
    exact List.suffix_cons action others

theorem IsRest.suffix (rest : IsRest todo) (suffix : others <:+ todo) : IsRest others := by
  obtain ⟨plan, isPlan, within⟩ := rest
  exact ⟨plan, isPlan, suffix.trans within⟩

theorem IsBeat.after (beat : IsBeat task.todo) (first : task.todo = action :: others)
    (acts : provider.act moment id success action = (next, effects, progress)) :
    IsBeat (task.after others progress).todo := by
  rw [first] at beat
  cases beat with
  | first =>
    obtain ⟨-, same⟩ := Prod.mk.inj acts
    obtain ⟨-, rfl⟩ := Prod.mk.inj same
    exact .second _
  | second lowest =>
    obtain ⟨-, same⟩ := Prod.mk.inj acts
    obtain ⟨-, rfl⟩ := Prod.mk.inj same
    exact .third lowest _
  | third lowest highest =>
    unfold act at acts
    dsimp only at acts
    split at acts <;> (obtain ⟨-, same⟩ := Prod.mk.inj acts; obtain ⟨-, rfl⟩ := Prod.mk.inj same)
    · exact .rests
    · exact .rests

/-- What is received closes the connection at most. -/
theorem handle_later (provider : Provider) (moment : Moment) (incoming : Incoming) :
    (provider.closed = true → (provider.handle moment incoming).1.closed = true) ∧
      (provider.handle moment incoming).1.heartbeatEnded = provider.heartbeatEnded ∧
      ((provider.handle moment incoming).1.endpoint = provider.endpoint ∨
        ∃ frameset, (provider.handle moment incoming).1.endpoint =
          provider.endpoint.adoptFrameset frameset) := by
  unfold handle handleFrame
  split
  · split
    case h_1 => exact ⟨fun closed => closed, rfl, .inr ⟨_, rfl⟩⟩
    case h_2 => exact ⟨fun _ => rfl, rfl, .inl rfl⟩
    case h_3 => split <;> exact ⟨fun closed => closed, rfl, .inl rfl⟩
    case h_4 => exact ⟨fun closed => closed, rfl, .inl rfl⟩
  · exact ⟨fun closed => closed, rfl, .inl rfl⟩

theorem CallsMove.isRest {tasks : List Task} (rests : ∀ task ∈ provider.tasks, IsRest task.todo)
    (calls : provider.CallsMove moment event tasks) : ∀ task ∈ tasks, IsRest task.todo := by
  intro task member
  cases calls with
  | same => exact rests task member
  | new call =>
    rcases List.mem_append.mp member with old | new
    · exact rests task old
    · rw [List.mem_singleton.mp new]
      exact provider.isRest_taskFor call
  | acted turn found first acts =>
    rcases List.mem_or_eq_of_mem_set member with old | rfl
    · exact rests task old
    · have rest := rests _ (List.mem_of_getElem? found)
      exact rest.suffix (rest.after_suffix first acts)

theorem IsInOrder.move (h : provider.IsInOrder) (move : provider.Moves moment event next effects) :
    next.IsInOrder := by
  have calls := move.calls.isRest h.calls
  cases move with
  | idle => exact h
  | @acted actor task action others next effects progress success found first acts =>
    obtain ⟨-, heartbeat, ended, built, -, -⟩ :=
      act_keeps provider moment (provider.number actor) success action
    rw [acts] at heartbeat ended built
    dsimp only at heartbeat ended built
    cases actor with
    | call id =>
      refine ⟨built ▸ h.built, calls, ?_⟩
      show IsBeat next.heartbeat.todo ∨
        next.heartbeatEnded = true ∧ next.heartbeat.todo <:+ closing timeoutMessage
      rw [heartbeat, ended]
      exact h.heartbeat
    | heartbeat =>
      refine ⟨built ▸ h.built, calls, ?_⟩
      have same : provider.heartbeat = task := Option.some.inj found
      show IsBeat (task.after others progress).todo ∨
        next.heartbeatEnded = true ∧
          (task.after others progress).todo <:+ closing timeoutMessage
      rw [ended]
      have forms := h.heartbeat
      rw [same] at forms
      rcases forms with beat | ⟨gone, rest⟩
      · exact .inl (beat.after first acts)
      · have left : IsRest task.todo := ⟨_, .close timeoutMessage, rest⟩
        exact .inr ⟨gone, (left.after_suffix first acts).trans rest⟩
  | called call => exact ⟨h.built, calls, h.heartbeat⟩
  | due rests goes =>
    unfold beat
    split_ifs
    · exact ⟨h.built, h.calls, .inr ⟨rfl, List.suffix_rfl⟩⟩
    · exact ⟨h.built, h.calls, .inl .first⟩
  | ended rests closed =>
    refine ⟨h.built, h.calls, .inl ?_⟩
    rw [rests]
    exact .rests
  | heard incoming reads =>
    obtain ⟨-, -, heartbeat, -⟩ := provider.handle_keeps moment incoming
    obtain ⟨-, ended, endpoint⟩ := provider.handle_later moment incoming
    refine ⟨?_, calls, ?_⟩
    · rcases endpoint with same | ⟨frameset, adopted⟩
      · rw [same]
        exact h.built
      · rw [adopted]
        exact h.built.adoptFrameset frameset
    · rw [heartbeat, ended]
      exact h.heartbeat
  | unread reads => exact ⟨h.built, h.calls, h.heartbeat⟩
  | forgotten => exact ⟨h.built, h.calls, h.heartbeat⟩

theorem eq_of_start {config : ProviderConfig} {uptime : Duration} {greeting : List Effect}
    (started : start config uptime = .ok (provider, greeting)) :
    ∃ endpoint, Endpoint.ofSettings config.settings = .ok endpoint ∧
      provider = { config, endpoint, lastAcknack := uptime } := by
  unfold start at started
  obtain ⟨_, -, started⟩ := bind_eq_ok.mp started
  obtain ⟨endpoint, built, started⟩ := bind_eq_ok.mp started
  refine ⟨endpoint, built, ?_⟩
  dsimp only at started
  split_ifs at started
  · obtain ⟨request, -, started⟩ := bind_eq_ok.mp started
    exact (Prod.mk.inj (Except.ok.inj started)).1.symm
  · exact (Prod.mk.inj (Except.ok.inj started)).1.symm

theorem isInOrder_of_start {config : ProviderConfig} {uptime : Duration} {greeting : List Effect}
    (started : start config uptime = .ok (provider, greeting)) : provider.IsInOrder := by
  obtain ⟨endpoint, built, rfl⟩ := eq_of_start started
  exact ⟨.ofSettings built, List.forall_mem_nil _, .inl .rests⟩

theorem run_cons (provider : Provider) (moment : Moment) (event : Event)
    (events : List (Moment × Event)) :
    provider.run ((moment, event) :: events) =
      (((provider.step moment event).1.run events).1,
        (provider.step moment event).2 ++ ((provider.step moment event).1.run events).2) :=
  rfl

theorem run_append (provider : Provider) (events others : List (Moment × Event)) :
    provider.run (events ++ others) =
      (((provider.run events).1.run others).1,
        (provider.run events).2 ++ ((provider.run events).1.run others).2) :=
  Machine.run_append _ _ _ _

theorem IsInOrder.run (h : provider.IsInOrder) (events : List (Moment × Event)) :
    (provider.run events).1.IsInOrder := by
  induction events generalizing provider with
  | nil => exact h
  | cons first events ih =>
    obtain ⟨moment, event⟩ := first
    rw [run_cons]
    exact ih (h.move (provider.moves_step moment event))

theorem written_append (effects others : List Effect) :
    Link.written (effects ++ others) = Link.written effects ++ Link.written others :=
  List.filterMap_append

/-- A provider that has connected and says nothing by itself. -/
def taciturn : ProviderConfig where
  station := "STA"
  sendOptionRequest := false

/-- Events that happen at the same time. -/
def atOnce (events : List Event) : List (Moment × Event) :=
  events.map (⟨0, 0⟩, ·)

end Provider

end ContinuousData
